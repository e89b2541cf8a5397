import Placeholders.Yaml.Scalar.Folding

/-!
# Plain scalars

A plain scalar is written without quotes.  It ends before anything that means something to its
surroundings.

* `Yaml.beginsPlain` — can a plain scalar begin here?
* `Yaml.readPlain` — reads one.
-/

namespace Placeholders.Yaml

/-- The marks of flow collections, which no plain scalar inside of one may contain. -/
def isFlowMark (c : Char) : Bool := c == ',' || c == '[' || c == ']' || c == '\x7b' || c == '\x7d'

/-- The characters that begin something else. -/
def indicators : List Char :=
  ['-', '?', ':', ',', '[', ']', '\x7b', '\x7d', '#', '&', '*', '!', '|', '>', '\'', '"', '%', '@',
    '\x60']

/-- Can a plain scalar begin with the character `c`?  Outside of flow collections a hyphen, a
question mark or a colon may begin one if a word follows at once, inside only a hyphen may. -/
def beginsPlain (flow : Bool) (c : Char) (rest : List Char) : Bool :=
  (!isBlank c && !isBreak c && !indicators.contains c) ||
    (c == '-' && !(rest.head?.any isBlank)) ||
    (!flow && (c == '?' || c == ':') && !atGap rest)

/-- Is the scalar over before a word that follows a gap?  It is at a column that belongs to the
surroundings, at the marker of a document, and at a comment. -/
def endsAtWord (flow : Bool) (floor : Nat) (mark : Mark) (word : List Char) : Bool :=
  (!flow && mark.column < floor) || (mark.column == 0 && atMarker word) || word.head? == some '#'

/-- Is the scalar over before a character?  It is at a colon that a gap follows, and in a flow
collection at the marks of those. -/
def endsAtChar (flow : Bool) (c : Char) (rest : List Char) : Bool :=
  (c == ':' && atGap rest) || (flow && isFlowMark c)

/-- In a flow collection a colon may not stand right before a question mark or a mark of those. -/
def isStrayColon (flow : Bool) (c : Char) (rest : List Char) : Bool :=
  flow && c == ':' && rest.head?.any fun d => d == '?' || isFlowMark d

/-- A plain scalar that was read: its text, and whether there is a line break after it. -/
structure PlainScalar where
  text : List Char
  broken : Bool

/-- Reads a plain scalar whose lines begin at the column `floor` or after it.  `read` holds the
words so far, last character first, and `gap` what was read after them. -/
def readPlain (flow : Bool) (floor : Nat) (read : List Char) (gap : Gap) (mark : Mark) :
    List Char → Option (PlainScalar × Cursor)
  | [] => some (⟨read.reverse, gap.isBroken⟩, ⟨mark, []⟩)
  | c :: rest =>
    if isBlank c then
      if c == '\t' ∧ gap.isBroken ∧ mark.column < floor then none
      else readPlain flow floor read (gap.add c) (mark.after c) rest
    else if isBreak c then readPlain flow floor read (gap.add c) (mark.after c) rest
    else if (!gap.isEmpty && endsAtWord flow floor mark (c :: rest)) then
      some (⟨read.reverse, gap.isBroken⟩, ⟨mark, c :: rest⟩)
    else if isStrayColon flow c rest then none
    else if endsAtChar flow c rest then
      some (⟨read.reverse, gap.isBroken⟩, ⟨mark, c :: rest⟩)
    else readPlain flow floor (c :: (gap.folded ++ read)) .nothing (mark.after c) rest

end Placeholders.Yaml
