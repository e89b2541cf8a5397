import Placeholders.Yaml.Scalar.Plain
import Placeholders.Yaml.Scalar.Quoted
import Placeholders.Yaml.Scalar.Block

/-!
# Tokens of YAML

* `Yaml.Style` — how a scalar is written.
* `Yaml.Tag` — a tag as it is written; `Yaml.TagPrefixes` — what its handle may stand for.
* `Yaml.Token` — a token.  Indentation shows as tokens that open and close block collections.
-/

namespace Placeholders.Yaml

/-- How a scalar is written. -/
inductive Style where
  | plain
  | quoted
  | literal
  | folded
  deriving DecidableEq

/-- A tag as it is written.  Without a handle the suffix is the whole tag. -/
structure Tag where
  handle : List Char
  suffix : List Char
  deriving DecidableEq

/-- What handles of tags stand for. -/
abbrev TagPrefixes := List (List Char × List Char)

/-- The handles that every document knows. -/
def TagPrefixes.standard : TagPrefixes :=
  [(['!'], ['!']), (['!', '!'], "tag:yaml.org,2002:".toList)]

/-- The full text of a tag, if its handle is known. -/
def Tag.resolve? (tag : Tag) (known : TagPrefixes) : Option (List Char) :=
  if tag.handle.isEmpty then some tag.suffix
  else (known.lookup tag.handle).map (· ++ tag.suffix)

/-- A token. -/
inductive Token where
  /-- a directive that names the version -/
  | version (major minor : Nat)
  /-- a directive that says what a handle stands for -/
  | tagPrefix (handle text : List Char)
  | documentStart
  | documentEnd
  | openBlockList
  | openBlockRecord
  | closeBlock
  | openFlowList
  | closeFlowList
  | openFlowRecord
  | closeFlowRecord
  /-- an item of a block list follows -/
  | item
  /-- an item of a flow list or a field of a flow record is over -/
  | comma
  /-- the key of a field follows -/
  | key
  /-- the value of a field follows -/
  | value
  | alias (name : List Char)
  | anchor (name : List Char)
  | tag (tag : Tag)
  | scalar (style : Style) (text : List Char)
  deriving DecidableEq

end Placeholders.Yaml
