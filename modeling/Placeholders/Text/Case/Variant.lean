import Placeholders.Text.Case.Pairs

/-!
# Case variants

* `Case.variants` — the characters that differ from a character in case only.
* `Case.asciiVariants` — the same within ASCII.
* `Case.classes` — all classes of two or more variants.
-/

namespace Placeholders.Case

/-- All characters that are equal to `c` up to case, itself included. -/
def variants (c : Char) : List Char :=
  match orbits.find? fun orbit => orbit.contains c.toNat with
  | some orbit => orbit.map Char.ofNat
  | none =>
    match shift? pairRuns c.toNat with
    | some n => [c, Char.ofNat n]
    | none =>
      match unshift? pairRuns c.toNat with
      | some n => [c, Char.ofNat n]
      | none => [c]

/-- The variants of a character within ASCII. -/
def asciiVariants (c : Char) : List Char :=
  [c, c.toLower, c.toUpper]

/-- The classes of two or more characters that differ only in case, within ASCII or in general. -/
def classes (ascii : Bool) : List (List Nat) :=
  if ascii then (List.range 26).map fun k => ['A'.toNat + k, 'a'.toNat + k]
  else orbits ++ (pairs pairRuns).map fun (a, b) => [a, b]

end Placeholders.Case
