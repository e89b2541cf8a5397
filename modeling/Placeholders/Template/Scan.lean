import Placeholders.Template

/-!
# Scanning templates

A template is expanded by a scan over its bytes in UTF-8.  Bytes that stand for themselves are not
written one by one: the scan goes past them, and when it comes to an escape or a group, or to the
end, it writes in one piece the part of the template that it has gone past.

* `Template.cut?` — the part of a text between two byte offsets.
* `Template.special?` — the escape or group that begins at a byte.
* `Template.Scan` — how far a scan has got; `Scan.step` is one turn of it, `Scan.run` all turns.
* `Template.write?` — writes what a template gives for a match; `Template.fill` gives it alone.
-/

namespace Placeholders.Template

/-! ## Offsets -/

/-- The bytes of a text. -/
def bytesOf (cs : List Char) : List UInt8 := cs.flatMap String.utf8EncodeChar

/-- A text in two parts, the first of which has a given number of bytes.  No character can be
divided, and no more bytes can be taken than there are. -/
def splitBytes? : List Char → Nat → Option (List Char × List Char)
  | cs, 0 => some ([], cs)
  | [], _ + 1 => none
  | c :: cs, n + 1 =>
    if c.utf8Size ≤ n + 1 then
      (splitBytes? cs (n + 1 - c.utf8Size)).map fun (before, after) => (c :: before, after)
    else none

/-- The part of a text between two byte offsets, which both have to lie between characters. -/
def cut? (cs : List Char) (first last : Nat) : Option (List Char) :=
  if first ≤ last then do
    let (_, after) ← splitBytes? cs first
    let (part, _) ← splitBytes? after (last - first)
    pure part
  else none

/-! ## What begins at a byte -/

/-- Is the byte an ASCII digit? -/
def isDigitByte (b : UInt8) : Bool := '0'.toUInt8 ≤ b && b ≤ '9'.toUInt8

/-- The number of a group at the start of some bytes, and how many digits it has. -/
def numberOfBytes? (bytes : List UInt8) : Option (Nat × Nat) :=
  let digits := (bytes.take 2).takeWhile isDigitByte
  if digits.isEmpty then none
  else some (digits.foldl (fun n b => n * 10 + (b - '0'.toUInt8).toNat) 0, digits.length)

/-- The group that the bytes after a dollar sign name, and how many of them do so. -/
def dollarGroup? (bytes : List UInt8) : Option (Nat × Nat) :=
  if bytes.head? = some '\x7b'.toUInt8 then
    match numberOfBytes? bytes.tail with
    | some (n, width) =>
      if bytes.tail[width]? = some '\x7d'.toUInt8 then some (n, width + 2) else none
    | none => none
  else numberOfBytes? bytes

/-- The escape or group at the start of some bytes, and how many bytes it takes.  Anything else
stands for itself. -/
def special? : List UInt8 → Option (Piece × Nat)
  | [] => none
  | b :: rest =>
    if b = '\\'.toUInt8 then
      if rest.head? = some '\\'.toUInt8 then some (.char '\\', 2)
      else if rest.head? = some '$'.toUInt8 then some (.char '$', 2)
      else (numberOfBytes? rest).map fun (n, width) => (.group n, width + 1)
    else if b = '$'.toUInt8 then
      (dollarGroup? rest).map fun (n, width) => (.group n, width + 1)
    else none

/-! ## The scan -/

/-- How far a scan has got. -/
structure Scan where
  /-- where the part of the template begins that is still to be written -/
  start : Nat
  /-- where the scan is -/
  offset : Nat
  /-- the bytes from there on -/
  rest : List UInt8
  /-- what is written -/
  written : List Char

/-- One turn.  It fails if what is to be written cannot be cut out of the template. -/
def Scan.step (groups : Groups) (template : List Char) (s : Scan) : Option Scan :=
  match special? s.rest with
  | none => some { s with offset := s.offset + 1, rest := s.rest.drop 1 }
  | some (piece, width) => do
    let text ← cut? template s.start s.offset
    pure ⟨s.offset + width, s.offset + width, s.rest.drop width,
      s.written ++ text ++ piece.expand groups⟩

/-- Goes on to the end, where what is left is written.  It fails if it does not get there in a given
number of turns. -/
def Scan.run (groups : Groups) (template : List Char) : (turns : Nat) → Scan → Option (List Char)
  | turns, s =>
    if s.rest.isEmpty then
      (splitBytes? template s.start).map fun (_, text) => s.written ++ text
    else
      match turns with
      | 0 => none
      | turns + 1 => (s.step groups template).bind (run groups template turns)

/-- Writes what a template gives for the groups of a match behind a text.  There is a turn for each
byte. -/
def write? (groups : Groups) (template written : List Char) : Option (List Char) :=
  let bytes := bytesOf template
  Scan.run groups template bytes.length ⟨0, 0, bytes, written⟩

/-- What a template gives for the groups of a match. -/
def fill (template : List Char) (groups : Groups) : List Char :=
  (write? groups template []).getD []

end Placeholders.Template
