/-!
# Structured content

What data formats have in common: scalars, lists and records.

* `ScalarKind`, `Scalar` — a scalar by its kind and by the way it is written.
* `Content` — content of a document.
* `Content.isStrict` — can a strict reader read it?
-/

namespace Placeholders

/-- What a scalar is to a reader who tells kinds apart. -/
inductive ScalarKind where
  | text
  /-- a natural number, which as a key counts the fields -/
  | count (n : Nat)
  | other
  deriving DecidableEq

/-- A scalar. -/
structure Scalar where
  kind : ScalarKind
  /-- its text, whatever its kind -/
  written : String
  /-- the flag that it spells, if it spells one -/
  flag? : Option Bool := none
  /-- there is nothing where a scalar could be -/
  absent : Bool := false
  deriving DecidableEq

/-- A text. -/
def Scalar.ofText (text : String) : Scalar := { kind := .text, written := text }

/-- Content of a document.  A record may have several fields under one key, and any content may be a
key. -/
inductive Content where
  | scalar (s : Scalar)
  | list (items : List Content)
  | record (fields : List (Content × Content))
  /-- content that only a lenient reader reads -/
  | foreign (content : Content)
  /-- the content that the anchor with this number marks -/
  | alias (anchor : Nat)
  deriving Inhabited

namespace Content

/-- The content that a lenient reader gets. -/
def bare : Content → Content
  | .foreign c => c
  | c => c

/-- Is the content only for lenient readers? -/
def isForeign : Content → Bool
  | .foreign _ => true
  | _ => false

mutual

/-- Is there nothing foreign in the content, and no alias? -/
def isStrict : Content → Bool
  | .scalar _ => true
  | .list items => areStrict items
  | .record fields => areStrictFields fields
  | .foreign _ => false
  | .alias _ => false

/-- Are all items strict? -/
def areStrict : List Content → Bool
  | [] => true
  | item :: rest => isStrict item && areStrict rest

/-- Are all keys and values strict? -/
def areStrictFields : List (Content × Content) → Bool
  | [] => true
  | (key, value) :: rest => isStrict key && isStrict value && areStrictFields rest

end

end Content

end Placeholders
