import Placeholders.Content

/-!
# Following aliases

An alias stands for content that an anchor marks.  A reader follows the aliases that it meets and no
others, so it matters how far it looks: content that nobody reads may refer to itself, and content
that is read may not be without end.

* `Content.Anchors` — what anchors mark.
* `Content.Extent` — how far a reader looks.
* `Content.marks` — how many marks it takes to write content down.
* `Content.follow` — content with its aliases replaced as far as a reader looks.
-/

namespace Placeholders.Content

/-- The content that anchors mark, by their numbers.  Of several entries the first counts. -/
abbrev Anchors := List (Nat × Content)

/-- How far a reader looks into content. -/
inductive Extent where
  | whole
  /-- at the items of a list -/
  | items (item : Extent)
  /-- at the keys of a record, and at the values under some of them -/
  | fields (known : List (String × Extent))

/-- How far a reader looks into the items of a list. -/
def Extent.item? : Extent → Option Extent
  | .whole => some .whole
  | .items item => some item
  | .fields _ => none

/-- How far a reader looks into the value under a key. -/
def Extent.value? (extent : Extent) (key : Content) : Option Extent :=
  match extent, key.bare with
  | .whole, _ => some .whole
  | .fields known, .scalar s => known.lookup s.written
  | _, _ => none

mutual

/-- How many marks it takes to write content down: one for a scalar or an alias, and two around the
parts of a collection. -/
def marks : Content → Nat
  | .scalar _ => 1
  | .alias _ => 1
  | .list items => itemMarks items + 2
  | .record fields => fieldMarks fields + 2
  | .foreign content => marks content

/-- The marks of items. -/
def itemMarks : List Content → Nat
  | [] => 0
  | item :: rest => marks item + itemMarks rest

/-- The marks of fields. -/
def fieldMarks : List (Content × Content) → Nat
  | [] => 0
  | (key, value) :: rest => marks key + marks value + fieldMarks rest

end

/-- An action that follows aliases.  Each alias takes one from the number of those that may still be
followed. -/
abbrev Following := StateT Nat Option

/-- What an alias stands for. -/
def target (anchors : Anchors) : Content → Following Content
  | .alias anchor => fun left =>
    match left, anchors.lookup anchor with
    | left + 1, some content => some (content, left)
    | _, _ => none
  | content => pure content

/-- Content with its aliases replaced as far as a reader looks.  No more than `depth` collections
may be inside of each other there. -/
def follow (anchors : Anchors) (depth : Nat) (extent : Extent) (content : Content) :
    Following Content := do
  let content ← target anchors content
  let inner ←
    match depth, content.bare with
    | _, .scalar s => pure (.scalar s)
    | depth + 1, .list items =>
      match extent.item? with
      | some extent => .list <$> items.mapM (follow anchors depth extent)
      | none => pure (.list items)
    | depth + 1, .record fields =>
      .record <$> fields.mapM fun (key, value) => do
        let key ← follow anchors depth .whole key
        match extent.value? key with
        | some extent => return (key, ← follow anchors depth extent value)
        | none => return (key, value)
    | _, _ => failure
  return if content.isForeign then .foreign inner else inner

end Placeholders.Content
