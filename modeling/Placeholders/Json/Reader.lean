import Placeholders.Json.Basic
import Placeholders.Text.Digit

/-!
# Reading JSON

The strict grammar: no comments, no trailing commas, nothing but blanks around the value, no
surrogate outside a pair, and at most 127 containers inside each other.  A text that breaks a rule
has no value; which rule it breaks is not reported.

* `Json.read?` — the value of a text.
* `Json.Number.ofDecimal?` — the number that a decimal denotes.  Digits are gathered into a
  significand of at most 64 bits, and the power of ten is applied in double arithmetic.
-/

namespace Placeholders.Json

/-- Drops blanks. -/
def skipBlank (cs : List Char) : List Char :=
  cs.dropWhile fun c => c == ' ' || c == '\n' || c == '\t' || c == '\r'

/-! ## Numbers -/

/-- The value of a decimal digit. -/
def digitValue (c : Char) : Nat := c.toNat - '0'.toNat

/-- The largest significand. -/
def maxSignificand : Nat := Nat.pow 2 64 - 1

/-- A significand that is gathered digit by digit, and the power of ten it stands for. -/
structure Significand where
  value : Nat
  exponent : Int

/-- Digits before the point.  From the first digit that does not fit on, digits only count. -/
def Significand.gatherWhole : Significand → List Char → Significand × Bool
  | s, [] => (s, false)
  | s, c :: rest =>
    let next := s.value * 10 + digitValue c
    if maxSignificand < next then
      (⟨s.value, s.exponent + ((rest.length : Int) + 1)⟩, true)
    else gatherWhole ⟨next, s.exponent⟩ rest

/-- Digits after the point.  From the first digit that does not fit on, digits are ignored. -/
def Significand.gatherFraction : Significand → List Char → Significand
  | s, [] => s
  | s, c :: rest =>
    let next := s.value * 10 + digitValue c
    if maxSignificand < next then s else gatherFraction ⟨next, s.exponent - 1⟩ rest

/-- `x · 10 ^ e` in double arithmetic: one step for powers that are doubles, and division by
10^308 first for those that are not.  Nothing on overflow. -/
def applyPower (x : Binary64) : Nat → Int → Option Binary64
  | 0, _ => some x
  | fuel + 1, e =>
    if e.natAbs ≤ 308 then do
      let power ← Binary64.ofNat? (Nat.pow 10 e.natAbs)
      if e ≥ 0 then x.mul? power else x.div? power
    else if x.significand = 0 then some x
    else if e ≥ 0 then none
    else do
      let power ← Binary64.ofNat? (Nat.pow 10 308)
      let smaller ← x.div? power
      applyPower smaller fuel (e + 308)

/-- The double of a significand and a power of ten.  Five steps bring every significand to zero or
to an exponent within reach. -/
def Significand.toFloat? (s : Significand) (negative : Bool) : Option Number := do
  let x ← Binary64.ofNat? s.value
  let y ← applyPower x 5 s.exponent
  pure (.float (y.withSign negative))

/-- The largest exponent that is taken at its value. -/
def maxWrittenExponent : Nat := Nat.pow 2 31 - 1

/-- The number that sign, digits before and after the point, and exponent denote.  An integer that
fits into 64 bits stays one, except minus zero. -/
def Number.ofDecimal? (negative : Bool) (whole : List Char) (fraction : Option (List Char))
    (exponent : Option (Bool × List Char)) : Option Number :=
  let (s, long) := Significand.gatherWhole ⟨0, 0⟩ whole
  let s := match fraction with
    | some ds => s.gatherFraction ds
    | none => s
  match exponent with
  | some (down, ds) =>
    let e := ds.foldl (fun acc c => acc * 10 + digitValue c) 0
    if maxWrittenExponent < e then
      if s.value ≠ 0 ∧ ¬down then none else some (.float (.zero negative))
    else
      Significand.toFloat? ⟨s.value, if down then s.exponent - e else s.exponent + e⟩ negative
  | none =>
    if fraction.isSome ∨ long then s.toFloat? negative
    else if ¬negative then some (.int s.value)
    else if s.value = 0 ∨ Nat.pow 2 63 < s.value then s.toFloat? true
    else some (.int (-s.value))

/-- Splits off leading digits. -/
def spanDigits (cs : List Char) : List Char × List Char :=
  (cs.takeWhile Char.isDigit, cs.dropWhile Char.isDigit)

/-- Reads the exponent part, if there is one. -/
def readExponent (cs : List Char) : Option ((Option (Bool × List Char)) × List Char) :=
  match cs with
  | 'e' :: rest | 'E' :: rest =>
    let (down, rest) := match rest with
      | '+' :: r => (false, r)
      | '-' :: r => (true, r)
      | r => (false, r)
    let (ds, rest) := spanDigits rest
    if ds.isEmpty then none else some (some (down, ds), rest)
  | _ => some (none, cs)

/-- Reads a number. -/
def readNumber (cs : List Char) : Option (Number × List Char) := do
  let (negative, cs) := match cs with
    | '-' :: r => (true, r)
    | r => (false, r)
  let (whole, cs) := spanDigits cs
  if whole.isEmpty ∨ (whole.head? = some '0' ∧ whole.length ≠ 1) then none
  let (fraction, cs) ← match cs with
    | '.' :: r =>
      let (ds, r) := spanDigits r
      if ds.isEmpty then none else some (some ds, r)
    | r => some (none, r)
  let (exponent, cs) ← readExponent cs
  let n ← Number.ofDecimal? negative whole fraction exponent
  pure (n, cs)

/-! ## Strings -/

/-- The value of four hexadecimal digits. -/
def hex4? (a b c d : Char) : Option Nat := do
  let a ← hexDigit? a
  let b ← hexDigit? b
  let c ← hexDigit? c
  let d ← hexDigit? d
  pure (((a * 16 + b) * 16 + c) * 16 + d)

/-- The character of a unit that is no surrogate. -/
def plainUnit? (n : Nat) : Option Char :=
  if 0xD800 ≤ n ∧ n ≤ 0xDFFF then none else some (Char.ofNat n)

/-- The character of a pair of surrogates. -/
def surrogatePair? (high low : Nat) : Option Char :=
  if 0xD800 ≤ high ∧ high ≤ 0xDBFF ∧ 0xDC00 ≤ low ∧ low ≤ 0xDFFF then
    some (Char.ofNat (0x10000 + (high - 0xD800) * 0x400 + (low - 0xDC00)))
  else none

/-- The character that a short escape stands for. -/
def shortEscape? : Char → Option Char
  | '"' => some '"'
  | '\\' => some '\\'
  | '/' => some '/'
  | 'b' => some '\x08'
  | 'f' => some '\x0c'
  | 'n' => some '\n'
  | 'r' => some '\r'
  | 't' => some '\t'
  | _ => none

/-- Reads a string after its opening quote, up to and including the closing one.  `read` holds
the characters so far, last first. -/
def readString (read : List Char) : List Char → Option (String × List Char)
  | [] => none
  | '"' :: rest => some (String.ofList read.reverse, rest)
  | '\\' :: 'u' :: a :: b :: c :: d :: '\\' :: 'u' :: e :: f :: g :: h :: rest =>
    match hex4? a b c d, hex4? e f g h with
    | some m, some n =>
      match plainUnit? m with
      | some x => readString (x :: read) ('\\' :: 'u' :: e :: f :: g :: h :: rest)
      | none =>
        match surrogatePair? m n with
        | some x => readString (x :: read) rest
        | none => none
    | _, _ => none
  | '\\' :: 'u' :: a :: b :: c :: d :: rest =>
    match (hex4? a b c d).bind plainUnit? with
    | some x => readString (x :: read) rest
    | none => none
  | '\\' :: c :: rest =>
    match shortEscape? c with
    | some x => readString (x :: read) rest
    | none => none
  | c :: rest => if c.toNat < 0x20 ∨ c = '\\' then none else readString (c :: read) rest

/-! ## Values -/

/-- Reads items up to the closing mark, given that there is at least one.  Each item takes at least
one character, so the length of the text is fuel enough. -/
def readItems {α : Type} (item : List Char → Option (α × List Char)) (close : Char) :
    Nat → List Char → Option (List α × List Char)
  | 0, _ => none
  | fuel + 1, cs => do
    let (x, cs) ← item cs
    match skipBlank cs with
    | [] => none
    | c :: rest =>
      if c = ',' then do
        let (xs, rest) ← readItems item close fuel rest
        pure (x :: xs, rest)
      else if c = close then pure ([x], rest)
      else none

/-- Reads the items of a container after its opening mark. -/
def readContainer {α : Type} (item : List Char → Option (α × List Char)) (close : Char)
    (cs : List Char) : Option (List α × List Char) :=
  match skipBlank cs with
  | [] => none
  | c :: rest => if c = close then some ([], rest) else readItems item close (cs.length + 1) cs

/-- Reads a field: a string, a colon, a value. -/
def readField (value : List Char → Option (Json × List Char)) (cs : List Char) :
    Option ((String × Json) × List Char) :=
  match skipBlank cs with
  | '"' :: cs => do
    let (key, cs) ← readString [] cs
    match skipBlank cs with
    | ':' :: cs => do
      let (v, cs) ← value cs
      pure ((key, v), cs)
    | _ => none
  | _ => none

/-- Reads a value that is no container. -/
def readScalar (cs : List Char) : Option (Json × List Char) :=
  match cs with
  | '"' :: rest => (readString [] rest).map fun (s, rest) => (.string s, rest)
  | 'n' :: 'u' :: 'l' :: 'l' :: rest => some (.null, rest)
  | 't' :: 'r' :: 'u' :: 'e' :: rest => some (.bool true, rest)
  | 'f' :: 'a' :: 'l' :: 's' :: 'e' :: rest => some (.bool false, rest)
  | cs => (readNumber cs).map fun (n, rest) => (.number n, rest)

/-- Reads a value that holds containers to the given depth. -/
def readValue : Nat → List Char → Option (Json × List Char)
  | 0, cs =>
    match skipBlank cs with
    | '[' :: _ | '\x7b' :: _ => none
    | cs => readScalar cs
  | depth + 1, cs =>
    match skipBlank cs with
    | '[' :: rest =>
      (readContainer (readValue depth) ']' rest).map fun (items, rest) => (.array items, rest)
    | '\x7b' :: rest =>
      (readContainer (readField (readValue depth)) '\x7d' rest).map
        fun (fields, rest) => (ofFields fields, rest)
    | cs => readScalar cs

/-- How many containers may stand inside each other. -/
def maxDepth : Nat := 127

/-- The value of a text. -/
def read? (text : String) : Option Json :=
  match readValue maxDepth text.toList with
  | some (v, rest) => if (skipBlank rest).isEmpty then some v else none
  | none => none

end Placeholders.Json
