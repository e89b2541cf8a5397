import Placeholders.Decimal.Binary64

/-!
# The shortest decimal that reads back

* `Binary64.digits` — the fewest decimal digits that identify a double: of all decimals that round
  to it, the one on the coarsest decimal grid, of two on that grid the nearer, and of two that are
  equally near the even one.
* `DecimalLayout` — how digits are laid out.
* `DecimalLayout.write` — the text of a double in a layout.
-/

namespace Placeholders

namespace Binary64

/-- The numbers that round to a double, in quarters of its last place: lower end, the double
itself, upper end.  Below a power of two the lower neighbour is twice as near. -/
def quarters (x : Binary64) : Nat × Nat × Nat :=
  let m := 4 * x.significand
  let below := if x.significand = Nat.pow 2 52 ∧ minExponent < x.exponent then 1 else 2
  (m - below, m, m + 2)

/-- Is `d · 10 ^ p` between the ends of the rounding interval?  The ends themselves round to the
double if its significand is even. -/
def reads (x : Binary64) (d : Nat) (p : Int) : Bool :=
  let (low, _, high) := x.quarters
  let e := x.exponent - 2
  let scale2 := if e ≥ 0 then Nat.pow 2 e.toNat else 1
  let unit2 := if e ≥ 0 then 1 else Nat.pow 2 (-e).toNat
  let scale10 := if p ≥ 0 then Nat.pow 10 p.toNat else 1
  let unit10 := if p ≥ 0 then 1 else Nat.pow 10 (-p).toNat
  let candidate := d * scale10 * unit2
  let lowEnd := low * scale2 * unit10
  let highEnd := high * scale2 * unit10
  if x.significand % 2 = 0 then lowEnd ≤ candidate && candidate ≤ highEnd
  else lowEnd < candidate && candidate < highEnd

/-- Twice the distance, on a common scale, of the double from the grid point below it, and the size
of the grid. -/
def gridPoint (x : Binary64) (p : Int) : Nat × Nat × Nat :=
  let (num, den) := x.fraction
  let (num, den) := if p ≥ 0 then (num, den * Nat.pow 10 p.toNat) else (num * Nat.pow 10 (-p).toNat, den)
  (num / den, 2 * (num % den), den)

/-- Is the grid point below the double, with digits `d`, to be preferred to the one above?  The
nearer one is, and half way between the two the even one. -/
def prefersLower (d twice den : Nat) : Bool :=
  twice < den || (twice == den && d % 2 == 0)

/-- The first grid, from coarse to fine, that holds a decimal in the rounding interval. -/
def search (x : Binary64) : Nat → Int → Nat × Int
  | 0, p => ((x.gridPoint p).1, p)
  | fuel + 1, p =>
    let (d, twice, den) := x.gridPoint p
    let down := x.reads d p
    let up := x.reads (d + 1) p
    if down && (!up || prefersLower d twice den) then (d, p)
    else if up then (d + 1, p)
    else search x fuel (p - 1)

/-- Digits `d` and exponent `p` of the shortest decimal `d · 10 ^ p` that rounds to the double. -/
def digits (x : Binary64) : Nat × Int :=
  if x.significand = 0 then (0, 0)
  else
    let (num, den) := x.fraction
    let start : Int := ((Nat.log2 num : Int) - Nat.log2 den) * 3 / 10 + 12
    search x 48 start

end Binary64

/-! ## Layout -/

/-- How the digits of a decimal are written: the exponents of the leading digit for which no
exponent is written, and the text before an exponent that is not negative. -/
structure DecimalLayout where
  leastPlain : Int
  mostPlain : Int
  exponentMark : String
  deriving DecidableEq

namespace DecimalLayout

/-- A number below one with `zeros` zeros after the point, a number with a point among its digits,
or a whole number with a zero after the point. -/
def plain (ds : List Char) (p : Int) : List Char :=
  if p ≥ 0 then ds ++ List.replicate p.toNat '0' ++ ['.', '0']
  else
    let places := (-p).toNat
    if places < ds.length then
      ds.take (ds.length - places) ++ '.' :: ds.drop (ds.length - places)
    else
      '0' :: '.' :: (List.replicate (places - ds.length) '0' ++ ds)

/-- One digit, the others after a point, and the exponent with its sign. -/
def scientific (layout : DecimalLayout) (ds : List Char) (exponent : Int) : List Char :=
  let mantissa := match ds with
    | d :: r :: rest => d :: '.' :: r :: rest
    | _ => ds
  let exponentText := if exponent < 0 then "e-" else layout.exponentMark
  mantissa ++ exponentText.toList ++ (Nat.toDigits 10 exponent.natAbs)

/-- The text of a double. -/
def write (layout : DecimalLayout) (x : Binary64) : String :=
  let (d, p) := x.digits
  let ds := Nat.toDigits 10 d
  let exponent : Int := ds.length + p - 1
  let body :=
    if layout.leastPlain ≤ exponent ∧ exponent ≤ layout.mostPlain then plain ds p
    else layout.scientific ds exponent
  String.ofList (if x.negative then '-' :: body else body)

end DecimalLayout

end Placeholders
