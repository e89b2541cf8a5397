/-!
# Doubles as exact numbers

A finite double is a sign, a significand below 2^53 and a power of two.  Arithmetic on it is exact
arithmetic on fractions followed by one rounding, so nothing here depends on the machine.

* `Binary64` — a finite double.
* `Binary64.round?` — the double nearest to a fraction; ties go to the even significand.
* `Binary64.ofNat?`, `mul?`, `div?` — the operations that reading a decimal needs.
-/

namespace Placeholders

/-- A finite double: `± significand · 2 ^ exponent`. -/
structure Binary64 where
  negative : Bool
  significand : Nat
  exponent : Int
  deriving DecidableEq

namespace Binary64

/-- The exponent of the smallest positive double. -/
def minExponent : Int := -1074

/-- The exponent of the largest doubles. -/
def maxExponent : Int := 971

/-- Zero, with a sign. -/
def zero (negative : Bool) : Binary64 := ⟨negative, 0, minExponent⟩

/-- `num · 2 ^ (-e) / den` as a fraction of naturals. -/
def scaled (num den : Nat) (e : Int) : Nat × Nat :=
  if e ≥ 0 then (num, den * Nat.pow 2 e.toNat) else (num * Nat.pow 2 (-e).toNat, den)

/-- A quotient rounded to the nearest natural; a half goes to the even neighbour. -/
def roundQuotient (num den : Nat) : Nat :=
  let q := num / den
  let r := num % den
  if 2 * r < den then q
  else if den < 2 * r then q + 1
  else if q % 2 = 0 then q else q + 1

/-- The power of two that gives `num / den` a significand of 53 bits, or the least power there is.
The difference of the bit lengths is this power or one too many. -/
def exponentFor (num den : Nat) : Int :=
  let estimate : Int := Nat.log2 num - Nat.log2 den - 52
  let (n, d) := scaled num den estimate
  let fitted := if n < d * Nat.pow 2 52 then estimate - 1 else estimate
  max fitted minExponent

/-- The double nearest to `num / den`, or nothing if that is beyond the largest double. -/
def round? (negative : Bool) (num den : Nat) : Option Binary64 :=
  if num = 0 then some (zero negative)
  else
    let e := exponentFor num den
    let (n, d) := scaled num den e
    let m := roundQuotient n d
    let (m, e) := if m = Nat.pow 2 53 then (Nat.pow 2 52, e + 1) else (m, e)
    if maxExponent < e then none else some ⟨negative, m, e⟩

/-- The magnitude as a fraction. -/
def fraction (x : Binary64) : Nat × Nat :=
  if x.exponent ≥ 0 then (x.significand * Nat.pow 2 x.exponent.toNat, 1)
  else (x.significand, Nat.pow 2 (-x.exponent).toNat)

/-- The double nearest to a natural number. -/
def ofNat? (n : Nat) : Option Binary64 := round? false n 1

/-- Rounded product; nothing on overflow. -/
def mul? (x y : Binary64) : Option Binary64 :=
  let (a, b) := x.fraction
  let (c, d) := y.fraction
  round? (x.negative != y.negative) (a * c) (b * d)

/-- Rounded quotient by a number that is not zero; nothing on overflow. -/
def div? (x y : Binary64) : Option Binary64 :=
  let (a, b) := x.fraction
  let (c, d) := y.fraction
  round? (x.negative != y.negative) (a * d) (b * c)

/-- The same number with the sign given. -/
def withSign (x : Binary64) (negative : Bool) : Binary64 := { x with negative }

end Binary64

end Placeholders
