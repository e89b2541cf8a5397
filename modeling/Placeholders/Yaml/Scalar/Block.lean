import Placeholders.Yaml.Text

/-!
# Block scalars

A block scalar is a header and the indented lines below it.  A literal one keeps its line breaks, a
folded one joins lines that begin with a word.

* `Yaml.BlockHeader`, `Yaml.blockHeader` — what stands behind the indicator.
* `Yaml.readBlock` — reads a block scalar after its indicator.
-/

namespace Placeholders.Yaml

/-- What becomes of the line breaks at the end: all go, one stays, all stay. -/
inductive Chomping where
  | strip
  | clip
  | keep

/-- What the header says: the chomping, and by how much the lines are indented, if it says so. -/
structure BlockHeader where
  chomping : Chomping := .clip
  indent? : Option Nat := none

/-- The chomping that a character asks for. -/
def chomping? : Char → Option Chomping
  | '+' => some .keep
  | '-' => some .strip
  | _ => none

/-- The indentation that a digit asks for; zero is none. -/
def indentation? (c : Char) : Option Nat :=
  (decimalDigit? c).filter (· ≠ 0)

/-- The header at the start of a text and its width.  Chomping and indentation stand in either
order. -/
def blockHeader : List Char → BlockHeader × Nat
  | [] => ({}, 0)
  | a :: rest =>
    match chomping? a, indentation? a with
    | some chomping, _ =>
      match rest.head?.bind indentation? with
      | some n => (⟨chomping, some n⟩, 2)
      | none => (⟨chomping, none⟩, 1)
    | none, some n =>
      match rest.head?.bind chomping? with
      | some chomping => (⟨chomping, some n⟩, 2)
      | none => (⟨.clip, some n⟩, 1)
    | none, none => ({}, 0)

/-- What was read of a block.  The column where its lines begin is `indent`, once that is known;
`widest` is the longest indentation seen before.  `ending` is the break after the last line, `empty`
are the breaks of empty lines after it, last first, as are the characters of `read`. -/
structure Block where
  literal : Bool
  indent : Option Nat
  widest : Nat := 0
  read : List Char := []
  ending : Option Char := none
  empty : List Char := []
  /-- the last line begins with a blank -/
  afterBlank : Bool := false

namespace Block

/-- Is a column in front of the lines?  All columns are while that is not known. -/
def isMargin (b : Block) (column : Nat) : Bool :=
  match b.indent with
  | some n => column < n
  | none => true

/-- Takes note of the indentation of a line. -/
def widen (b : Block) (column : Nat) : Block := { b with widest := max b.widest column }

/-- Fixes the column of the lines: the longest indentation so far, but at least `least`. -/
def settle (b : Block) (least : Nat) : Block :=
  { b with indent := some (b.indent.getD (max b.widest least)) }

/-- The break before a line that begins with the character `c`.  Between two lines that begin with
words, folding makes it a space, or drops it if there are empty lines. -/
def joint (b : Block) (c : Char) : List Char :=
  if !b.literal ∧ b.ending = some '\n' ∧ !b.afterBlank ∧ !isBlank c then
    if b.empty.isEmpty then [' '] else []
  else b.ending.toList

/-- Begins a line. -/
def beginLine (b : Block) (c : Char) : Block :=
  { b with
    read := c :: (b.empty ++ b.joint c ++ b.read)
    ending := none, empty := [], afterBlank := isBlank c }

/-- The text of the block. -/
def text (b : Block) : Chomping → List Char
  | .strip => b.read.reverse
  | .clip => (b.ending.toList ++ b.read).reverse
  | .keep => (b.empty ++ b.ending.toList ++ b.read).reverse

end Block

/-- Reads the lines of a block, to the first line that is not empty and begins before the others.
Tabs are no indentation. -/
def readLines (least : Nat) (b : Block) (inLine : Bool) (mark : Mark) :
    List Char → Option (Block × Cursor)
  | [] => some (b, ⟨mark, []⟩)
  | c :: rest =>
    if inLine then
      if isBreak c then readLines least { b with ending := some c } false (mark.after c) rest
      else readLines least { b with read := c :: b.read } true (mark.after c) rest
    else if c == ' ' ∧ b.isMargin mark.column then readLines least b false (mark.after c) rest
    else if c == '\t' ∧ b.isMargin mark.column then none
    else
      let b := b.widen mark.column
      if isBreak c then
        readLines least { b with empty := c :: b.empty } false (mark.after c) rest
      else
        let b := b.settle least
        if b.indent = some mark.column then
          readLines least (b.beginLine c) true (mark.after c) rest
        else some (b, ⟨mark, c :: rest⟩)

/-- Reads a block scalar after its indicator, below something whose contents begin at the column
`floor`.  An indentation that the header gives counts from the surroundings. -/
def readBlock (literal : Bool) (floor : Nat) (p : Cursor) : Option (List Char × Cursor) := do
  let (header, width) := blockHeader p.rest
  let start ← (p.advance width).toNextLine?
  let block : Block :=
    { literal := literal, indent := header.indent?.map fun n => (floor - 1) + n }
  let (block, p) ← readLines (max floor 1) block false start.mark start.rest
  pure (block.text header.chomping, p)

end Placeholders.Yaml
