import Placeholders.Pattern

/-!
# Replacement templates

A template is the text that replaces a match.  `\N`, `$N` and `${N}` stand for capture groups, with
one or two digits; `\\` and `\$` stand for a backslash and a dollar sign; all else stands for
itself.

* `Template.Piece` — a character or a group.
* `Template.pieces` — a template read from left to right.
* `Template.expand` — what a template gives for a match; `Template.Scan` finds it byte by byte.
* `Template.escapeLiteral` — the template that gives a text verbatim.
-/

namespace Placeholders.Template

/-- A piece of a template. -/
inductive Piece where
  | char (c : Char)
  | group (n : Nat)
  deriving DecidableEq

/-! ## Reading -/

/-- The number of a group at the start of a text, and how many digits it has: two if there are
two. -/
def groupNumber? : List Char → Option (Nat × Nat)
  | [] => none
  | a :: rest =>
    match decimalDigit? a with
    | none => none
    | some m =>
      match rest.head?.bind decimalDigit? with
      | some n => some (10 * m + n, 2)
      | none => some (m, 1)

/-- The piece that begins with `c`, and how many further characters it takes.  A backslash or dollar
sign that begins nothing else stands for itself. -/
def piece (c : Char) (rest : List Char) : Piece × Nat :=
  if c = '\\' then
    match rest with
    | '\\' :: _ => (.char '\\', 1)
    | '$' :: _ => (.char '$', 1)
    | _ =>
      match groupNumber? rest with
      | some (n, width) => (.group n, width)
      | none => (.char c, 0)
  else if c = '$' then
    match rest with
    | '\x7b' :: inner =>
      match groupNumber? inner with
      | some (n, width) =>
        if (inner.drop width).head? = some '\x7d' then (.group n, width + 2) else (.char c, 0)
      | none => (.char c, 0)
    | _ =>
      match groupNumber? rest with
      | some (n, width) => (.group n, width)
      | none => (.char c, 0)
  else (.char c, 0)

/-- The pieces of a text of which the first `skip` characters belong to the piece before. -/
def piecesAfter : (skip : Nat) → List Char → List Piece
  | _, [] => []
  | skip + 1, _ :: rest => piecesAfter skip rest
  | 0, c :: rest => (piece c rest).1 :: piecesAfter (piece c rest).2 rest

/-- The pieces of a template. -/
def pieces (template : List Char) : List Piece := piecesAfter 0 template

/-! ## Expanding -/

/-- The text of a piece.  A group without text gives nothing. -/
def Piece.expand (groups : Groups) : Piece → List Char
  | .char c => [c]
  | .group n => (groups n).getD []

/-- The text that a template gives for the groups of a match. -/
def expand (groups : Groups) (template : List Char) : List Char :=
  (pieces template).flatMap (Piece.expand groups)

/-! ## Literals -/

/-- Puts a text in the place of every occurrence of a character. -/
def replaceChar (old : Char) (new : List Char) (cs : List Char) : List Char :=
  cs.flatMap fun c => if c = old then new else [c]

/-- The template that gives a text verbatim.  Backslashes are doubled first, and then each dollar
sign gets one; the other way round these would be doubled too. -/
def escapeLiteral (cs : List Char) : List Char :=
  replaceChar '$' ['\\', '$'] (replaceChar '\\' ['\\', '\\'] cs)

end Placeholders.Template
