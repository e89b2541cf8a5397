import Placeholders.Yaml.Scalar.Folding

/-!
# Quoted scalars

Between single quotes a doubled quote stands for one; between double quotes a backslash begins an
escape.  Either kind may stand on several lines, which are folded.

* `Yaml.readSingleQuoted`, `Yaml.readDoubleQuoted` — read a scalar after its opening quote.
-/

namespace Placeholders.Yaml

/-- Reads up to and including the closing quote; a quote that another one follows does not close. -/
def readSingleQuoted (read : List Char) (gap : Gap) (mark : Mark) :
    List Char → Option (List Char × Cursor)
  | [] => none
  | c :: rest =>
    if isBlank c || isBreak c then readSingleQuoted read (gap.add c) (mark.after c) rest
    else if mark.column == 0 ∧ atMarker (c :: rest) then none
    else if c == '\'' then
      match rest with
      | '\'' :: rest =>
        readSingleQuoted ('\'' :: (gap.folded ++ read)) .nothing (mark.advance 2) rest
      | rest => some ((gap.folded ++ read).reverse, ⟨mark.after c, rest⟩)
    else readSingleQuoted (c :: (gap.folded ++ read)) .nothing (mark.after c) rest

/-- The character that a short escape stands for. -/
def shortEscape? : Char → Option Char
  | '0' => some '\x00'
  | 'a' => some '\x07'
  | 'b' => some '\x08'
  | 't' | '\t' => some '\t'
  | 'n' => some '\n'
  | 'v' => some '\x0b'
  | 'f' => some '\x0c'
  | 'r' => some '\r'
  | 'e' => some '\x1b'
  | ' ' => some ' '
  | '"' => some '"'
  | '/' => some '/'
  | '\\' => some '\\'
  | 'N' => some '\u0085'
  | '_' => some '\u00a0'
  | 'L' => some '\u2028'
  | 'P' => some '\u2029'
  | _ => none

/-- How many hexadecimal digits an escape has. -/
def escapeWidth? : Char → Option Nat
  | 'x' => some 2
  | 'u' => some 4
  | 'U' => some 8
  | _ => none

/-- The character with a number.  Surrogates are no characters. -/
def character? (n : Nat) : Option Char :=
  if (0xD800 ≤ n ∧ n ≤ 0xDFFF) ∨ 0x10FFFF < n then none else some (Char.ofNat n)

/-- How far an escape was read: not begun, its backslash, or some of its digits. -/
inductive Escape where
  | outside
  | begun
  | digits (left value : Nat)

/-- Reads up to and including the closing quote.  An escaped line break leaves nothing, nor do the
blanks after it. -/
def readDoubleQuoted (read : List Char) (gap : Gap) (escape : Escape) (mark : Mark) :
    List Char → Option (List Char × Cursor)
  | [] => none
  | c :: rest =>
    match escape with
    | .digits left value =>
      match hexDigit? c with
      | none => none
      | some d =>
        if left ≤ 1 then
          match character? (value * 16 + d) with
          | some x => readDoubleQuoted (x :: read) .nothing .outside (mark.after c) rest
          | none => none
        else
          readDoubleQuoted read .nothing (.digits (left - 1) (value * 16 + d)) (mark.after c) rest
    | .begun =>
      if isBreak c then readDoubleQuoted read (.breaks none []) .outside (mark.after c) rest
      else
        match shortEscape? c, escapeWidth? c with
        | some x, _ => readDoubleQuoted (x :: read) .nothing .outside (mark.after c) rest
        | none, some width =>
          readDoubleQuoted read .nothing (.digits width 0) (mark.after c) rest
        | none, none => none
    | .outside =>
      if isBlank c || isBreak c then readDoubleQuoted read (gap.add c) .outside (mark.after c) rest
      else if mark.column == 0 ∧ atMarker (c :: rest) then none
      else if c == '"' then some ((gap.folded ++ read).reverse, ⟨mark.after c, rest⟩)
      else if c == '\\' then
        readDoubleQuoted (gap.folded ++ read) .nothing .begun (mark.after c) rest
      else readDoubleQuoted (c :: (gap.folded ++ read)) .nothing .outside (mark.after c) rest

end Placeholders.Yaml
