import Placeholders.Content
import Placeholders.Decimal.Binary64
import Placeholders.Yaml.Token

/-!
# What scalars stand for

Of the scalars without a tag only plain ones may be anything but text: nothing, a flag, an integer
or a decimal.  A tag of the standard decides for any style, and a tag of the document's own leaves
the scalar to lenient readers.

* `Yaml.isNull`, `Yaml.flag?`, `Yaml.Integer.ofText?`, `Yaml.isDecimal` — forms of plain scalars.
* `Yaml.scalarContent` — a scalar as content.
-/

namespace Placeholders.Yaml

/-! ## Forms of plain scalars -/

/-- Does the text say that there is nothing? -/
def isNull (text : String) : Bool := ["null", "Null", "NULL", "~"].contains text

/-- The flag that the text spells. -/
def flag? (text : String) : Option Bool :=
  if ["true", "True", "TRUE"].contains text then some true
  else if ["false", "False", "FALSE"].contains text then some false
  else none

/-- An integer with its sign. -/
structure Integer where
  negative : Bool
  magnitude : Nat

/-- Splits off a sign: minus, plus or none. -/
def splitSign : List Char → Bool × List Char
  | '-' :: rest => (true, rest)
  | '+' :: rest => (false, rest)
  | cs => (false, cs)

/-- Do digits begin with a zero that is not all of them?  Such digits are no number. -/
def hasLeadingZero (digits : List Char) : Bool :=
  digits.length > 1 && digits.head? == some '0' && digits.all Char.isDigit

/-- The number that digits denote, in the base that they name or else in base ten. -/
def magnitude? (cs : List Char) : Option Nat :=
  match cs with
  | '0' :: 'x' :: digits => numeral? 16 digits
  | '0' :: 'o' :: digits => numeral? 8 digits
  | '0' :: 'b' :: digits => numeral? 2 digits
  | cs => if hasLeadingZero cs then none else numeral? 10 cs

/-- Does the integer fit into so many bits?  Only a minus sign takes a bit of its own. -/
def Integer.fits (i : Integer) (bits : Nat) : Bool :=
  if i.negative then i.magnitude ≤ Nat.pow 2 (bits - 1) else i.magnitude < Nat.pow 2 bits

/-- The integer that a text denotes, if it takes no more than 128 bits. -/
def Integer.ofText? (cs : List Char) : Option Integer := do
  let (negative, cs) := splitSign cs
  let n ← magnitude? cs
  let i : Integer := ⟨negative, n⟩
  if i.fits 128 then pure i else none

/-- The exponent that a text is, if it is one or empty. -/
def exponent? : List Char → Option Int
  | [] => some 0
  | c :: cs =>
    if c = 'e' ∨ c = 'E' then
      let (negative, digits) := splitSign cs
      (numeral? 10 digits).map fun n => if negative then -(n : Int) else n
    else none

/-- Is `n · 10 ^ e` below the numbers that no double comes near?  Far from the bound the number of
digits tells. -/
def isFinite (n : Nat) (e : Int) : Bool :=
  let width : Int := (Nat.toDigits 10 n).length + e
  if n = 0 ∨ width ≤ 308 then true
  else if 310 < width then false
  else
    let (num, den) := if e ≥ 0 then (n * Nat.pow 10 e.toNat, 1) else (n, Nat.pow 10 (-e).toNat)
    (Binary64.round? false num den).isSome

/-- Is the text a decimal that some double comes near?  Digits may be missing on one side of the
point. -/
def isDecimal (cs : List Char) : Bool :=
  let cs := (splitSign cs).2
  let whole := cs.takeWhile Char.isDigit
  let (fraction, rest) :=
    match cs.dropWhile Char.isDigit with
    | '.' :: cs => (cs.takeWhile Char.isDigit, cs.dropWhile Char.isDigit)
    | cs => ([], cs)
  match numeral? 10 (whole ++ fraction), exponent? rest with
  | some n, some e => isFinite n (e - fraction.length)
  | _, _ => false

/-- Does the text name an infinity, or what is not a number? -/
def isLimit (text : String) : Bool :=
  [".inf", ".Inf", ".INF", "+.inf", "+.Inf", "+.INF", "-.inf", "-.Inf", "-.INF", ".nan", ".NaN",
    ".NAN"].contains text

/-! ## Content -/

/-- An integer as content.  Strict readers want it in 64 bits. -/
def Integer.content (i : Integer) (s : Scalar) : Content :=
  if i.fits 64 then
    .scalar { s with kind := if i.negative then .other else .count i.magnitude }
  else .foreign (.scalar s)

/-- A plain scalar without a tag as content. -/
def plainContent (text : List Char) (s : Scalar) : Content :=
  if text.isEmpty ∨ isNull s.written ∨ (flag? s.written).isSome then .scalar s
  else
    match Integer.ofText? text with
    | some i => i.content s
    | none =>
      if isLimit s.written ∨ (!hasLeadingZero (splitSign text).2 ∧ isDecimal text) then .scalar s
      else .scalar { s with kind := .text }

/-- Content under a tag of the standard that it has to fit. -/
def fitted (fits : Bool) (s : Scalar) : Content :=
  if fits then .scalar s else .foreign (.scalar s)

/-- The tags of the standard begin with this. -/
def standardTag (name : String) : List Char := ("tag:yaml.org,2002:" ++ name).toList

/-- Does a tag belong to the document? -/
def isOwnTag (tag : Option (List Char)) : Bool := tag.bind List.head? == some '!'

/-- A scalar as content.  A flag for lenient readers is plain, or a literal block with the tag of
flags. -/
def scalarContent (style : Style) (tag : Option (List Char)) (text : List Char) : Content :=
  let written := String.ofList text
  let spells := style = .plain ∨ (style = .literal ∧ tag = some (standardTag "bool"))
  let s : Scalar :=
    { kind := .other, written := written
      flag? := if spells then flag? written else none
      absent := style = .plain ∧ text.isEmpty }
  match tag with
  | none => if style = .plain then plainContent text s else .scalar { s with kind := .text }
  | some t =>
    if isOwnTag tag then .foreign (.scalar s)
    else if t = standardTag "bool" then fitted (flag? written).isSome s
    else if t = standardTag "int" then
      match Integer.ofText? text with
      | some i => i.content s
      | none => .foreign (.scalar s)
    else if t = standardTag "float" then fitted (isLimit written ∨ isDecimal text) s
    else if t = standardTag "null" then fitted (isNull written) s
    else .scalar { s with kind := .text }

end Placeholders.Yaml
