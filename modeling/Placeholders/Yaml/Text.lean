import Placeholders.Text.Digit

/-!
# The characters of YAML

A text is a stream of permitted characters, and a position in it has a line and a column.

* `Yaml.characters?` — the characters of a text, with line breaks of one kind.
* `Yaml.Mark`, `Yaml.Cursor` — a position, and a position with the text that follows it.
* `Yaml.atGap`, `Yaml.atMarker` — what follows: a gap between words, the marker of a document.
* `Yaml.Cursor.toNextLine?` — skips what may follow at the end of a line.
-/

namespace Placeholders.Yaml

/-! ## Kinds of characters -/

/-- May the character stand in a text at all?  Control characters may not, but for tabs and line
breaks. -/
def isPermitted (c : Char) : Bool :=
  let n := c.toNat
  c == '\t' || c == '\n' || c == '\r' || (0x20 ≤ n && n ≤ 0x7E) || n == 0x85 ||
    (0xA0 ≤ n && n ≤ 0xFFFD) || 0x10000 ≤ n

/-- Writes the line breaks of most systems as one character. -/
def unifyBreaks : List Char → List Char
  | '\r' :: '\n' :: rest => '\n' :: unifyBreaks rest
  | c :: rest => (if c == '\r' || c == '\u0085' then '\n' else c) :: unifyBreaks rest
  | [] => []

/-- The characters of a text, if all of them are permitted. -/
def characters? (text : String) : Option (List Char) :=
  if text.toList.all isPermitted then some (unifyBreaks text.toList) else none

/-- A space or a tab. -/
def isBlank (c : Char) : Bool := c == ' ' || c == '\t'

/-- A line break: the unified one, or a separator of lines or of paragraphs. -/
def isBreak (c : Char) : Bool := c == '\n' || c == '\u2028' || c == '\u2029'

/-- A character of names: an ASCII letter or digit, a hyphen or an underscore. -/
def isNameChar (c : Char) : Bool := c.isAlphanum || c == '-' || c == '_'

/-! ## What follows -/

/-- Is there a blank, a break, or nothing more? -/
def atGap : List Char → Bool
  | [] => true
  | c :: _ => isBlank c || isBreak c

/-- Is there the marker that starts or ends a document?  It counts in the first column only. -/
def atMarker : List Char → Bool
  | '-' :: '-' :: '-' :: rest | '.' :: '.' :: '.' :: rest => atGap rest
  | _ => false

/-! ## Positions -/

/-- A position. -/
structure Mark where
  line : Nat := 0
  column : Nat := 0
  /-- how many bytes come before it -/
  index : Nat := 0

/-- The position after a character. -/
def Mark.after (m : Mark) (c : Char) : Mark :=
  let index := m.index + c.utf8Size
  if isBreak c then ⟨m.line + 1, 0, index⟩ else ⟨m.line, m.column + 1, index⟩

/-- The position after some ASCII characters of one line. -/
def Mark.advance (m : Mark) (width : Nat) : Mark := ⟨m.line, m.column + width, m.index + width⟩

/-- The position after some characters of one line. -/
def Mark.afterAll (m : Mark) (cs : List Char) : Mark :=
  ⟨m.line, m.column + cs.length, cs.foldl (fun index c => index + c.utf8Size) m.index⟩

/-- A position with the text that follows it. -/
structure Cursor where
  mark : Mark := {}
  rest : List Char

namespace Cursor

/-- Past some characters of this line. -/
def advance (p : Cursor) (width : Nat) : Cursor :=
  ⟨p.mark.afterAll (p.rest.take width), p.rest.drop width⟩

/-- Past the characters of this line that a test accepts. -/
def skipWhile (p : Cursor) (test : Char → Bool) : Cursor :=
  p.advance (p.rest.takeWhile test).length

/-- Past blanks. -/
def skipBlanks (p : Cursor) : Cursor := p.skipWhile isBlank

/-- Past a comment, if there is one. -/
def skipComment (p : Cursor) : Cursor :=
  match p.rest with
  | '#' :: _ => p.skipWhile fun c => !isBreak c
  | _ => p

/-- The start of the next line, if nothing but blanks and a comment is left of this one. -/
def toNextLine? (p : Cursor) : Option Cursor :=
  let p := p.skipBlanks.skipComment
  match p.rest with
  | [] => some p
  | c :: rest => if isBreak c then some ⟨p.mark.after c, rest⟩ else none

end Cursor

end Placeholders.Yaml
