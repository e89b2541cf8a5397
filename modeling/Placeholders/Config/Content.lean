import Placeholders.Config
import Placeholders.Content

/-!
# Reading and writing configurations

A configuration is written as a record in some data format.  How strictly a piece of it is read is
its `Manner`.

* `Config.Manner` — how texts, lists and records may be written.
* `Config.ofContent?` — reads a configuration.
* `Config.ofJson?`, `Config.toJson` — the JSON form.
-/

namespace Placeholders.Config

/-- How a piece of a configuration may be written. -/
structure Manner where
  /-- every scalar is good for a text, by the way it is written, and an absent one for a list -/
  anyScalar : Bool
  /-- a list of fields in order is good for a record -/
  listsAsRecords : Bool
  /-- what is bound to a key has to be strict content -/
  strictValues : Bool

/-- The manner for JSON, and for what is bound to a key in every format. -/
def Manner.inner : Manner := ⟨false, true, false⟩

/-- A text. -/
def textOf? (m : Manner) (content : Content) : Option String :=
  match content.bare with
  | .scalar s => if m.anyScalar ∨ s.kind = .text then some s.written else none
  | _ => none

/-- A flag. -/
def flagOf? (content : Content) : Option Bool :=
  match content.bare with
  | .scalar s => s.flag?
  | _ => none

/-- The items of a list. -/
def itemsOf? (m : Manner) (content : Content) : Option (List Content) :=
  match content.bare with
  | .list items => some items
  | .scalar s => if m.anyScalar ∧ s.absent then some [] else none
  | _ => none

/-- The position of the name that a key gives, or one past all names.  Where kinds of scalars are
told apart, a number is good for the position itself. -/
def positionOf? (m : Manner) (names : List String) (key : Content) : Option Nat :=
  match textOf? m key, key with
  | some name, _ => some (names.idxOf name)
  | none, .scalar { kind := .count n, .. } => some n
  | none, _ => none

/-- The values of the named fields of a record, in the order of the names.  A field may be missing
but not be there twice; fields of other names do not count.  A list gives its items to the names in
order and may not be longer. -/
def fieldsOf? (m : Manner) (names : List String) (content : Content) :
    Option (List (Option Content)) :=
  match content.bare with
  | .record fields => do
    let placed ← fields.mapM fun (key, value) => (positionOf? m names key).map (·, value)
    (List.range names.length).mapM fun i =>
      match placed.filter fun field => field.1 == i with
      | [] => some none
      | [field] => some (some field.2)
      | _ => none
  | .list items =>
    if m.listsAsRecords ∧ items.length ≤ names.length then
      some (items.map some ++ List.replicate (names.length - items.length) none)
    else none
  | _ => none

/-- A field with a default.  A field that is there has to be readable. -/
def fieldOr {α : Type} (read : Content → Option α) (default : α) :
    Option Content → Option α
  | none => some default
  | some content => read content

/-- A list of texts. -/
def textsOf? (m : Manner) (content : Content) : Option (List String) := do
  let items ← itemsOf? m content
  items.mapM (textOf? m)

/-- Reads the options of a substitution. -/
def substitutionOf? (content : Content) : Option SubstitutionConfig := do
  match ← fieldsOf? .inner ["patterns", "replacements"] content with
  | [patterns, replacements] =>
    let patterns ← patterns.bind (textsOf? .inner)
    let replacements ← fieldOr (textsOf? .inner) [] replacements
    pure ⟨patterns, replacements⟩
  | _ => none

/-- Reads a filter: a name, or a record with the options of a substitution. -/
def filterOf? (content : Content) : Option FilterConfig :=
  match content with
  | .scalar _ => (textOf? .inner content).map .named
  | .record _ => do
    match ← fieldsOf? .inner ["regex_replace"] content with
    | [some options] => (substitutionOf? options).map .substitution
    | _ => none
  | _ => none

/-- Reads what a key is bound to. -/
def valueOf? (content : Content) : Option ValueConfig :=
  match content with
  | .scalar _ => (textOf? .inner content).map .text
  | .list items => (items.mapM filterOf?).map .filters
  | _ => none

/-- Reads a binding. -/
def bindingOf? (m : Manner) (content : Content) : Option BindingConfig := do
  match ← fieldsOf? m ["key", "value"] content with
  | [some key, some value] =>
    let key ← textOf? m key
    if m.strictValues ∧ !value.isStrict then none
    else
      let value ← valueOf? value
      pure ⟨key, value⟩
  | _ => none

/-- Reads the bindings. -/
def rulesOf? (m : Manner) (content : Content) : Option (List BindingConfig) := do
  let items ← itemsOf? m content
  items.mapM (bindingOf? m)

/-- Reads a configuration. -/
def ofContent? (m : Manner) (content : Content) : Option Config := do
  match ← fieldsOf? m ["target", "identifier", "throw_on_unresolved", "rules"] content with
  | [some target, identifier, strict, rules] =>
    let target ← textOf? m target
    let identifier ← fieldOr (textOf? m) ":" identifier
    let strict ← fieldOr flagOf? true strict
    let rules ← fieldOr (rulesOf? m) [] rules
    pure ⟨target, identifier, strict, rules⟩
  | _ => none

/-! ## JSON -/

mutual

/-- A JSON value as content. -/
def jsonContent : Json → Content
  | .string s => .scalar (.ofText s)
  | .bool true => .scalar { kind := .other, written := "true", flag? := some true }
  | .bool false => .scalar { kind := .other, written := "false", flag? := some false }
  | .null => .scalar { kind := .other, written := "null" }
  | .number n => .scalar { kind := .other, written := n.text }
  | .array items => .list (jsonItems items)
  | .object fields => .record (jsonFields fields)

/-- The items of an array as content. -/
def jsonItems : List Json → List Content
  | [] => []
  | item :: rest => jsonContent item :: jsonItems rest

/-- The fields of an object as content. -/
def jsonFields : List (String × Json) → List (Content × Content)
  | [] => []
  | (name, value) :: rest => (.scalar (.ofText name), jsonContent value) :: jsonFields rest

end

/-- Reads a configuration from JSON. -/
def ofJson? (value : Json) : Option Config := ofContent? .inner (jsonContent value)

/-- A list of texts as JSON. -/
def textsJson (texts : List String) : Json := .array (texts.map .string)

/-- A filter as JSON. -/
def filterJson : FilterConfig → Json
  | .named name => .string name
  | .substitution options =>
    .object
      [("regex_replace",
        .object
          [("patterns", textsJson options.patterns),
           ("replacements", textsJson options.replacements)])]

/-- What a key is bound to as JSON. -/
def valueJson : ValueConfig → Json
  | .text value => .string value
  | .filters chain => .array (chain.map filterJson)

/-- A binding as JSON. -/
def bindingJson (b : BindingConfig) : Json :=
  .object [("key", .string b.key), ("value", valueJson b.value)]

/-- A configuration as JSON, with all its fields. -/
def toJson (c : Config) : Json :=
  .object
    [("identifier", .string c.identifier),
     ("rules", .array (c.rules.map bindingJson)),
     ("target", .string c.target),
     ("throw_on_unresolved", .bool c.strict)]

end Placeholders.Config
