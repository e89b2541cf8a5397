/-!
# Shifts

Case maps move whole runs of letters by one distance, and often every other code point of a run, as
capital and small letters take turns.  So their data are runs `(first, last, step, image)`: the
code points `first, first + step, …, last` go to `image, image + step, …`.

* `Shift` — such a run.
* `shift?`, `unshift?` — where a code point goes, and where it comes from.
-/

namespace Placeholders.Case

/-- First and last letter and step of a run that a case map moves as a whole, and the image of the
first letter. -/
abbrev Shift := Nat × Nat × Nat × Nat

/-- The image of a code point under the first run that moves it. -/
def shift? (runs : List Shift) (n : Nat) : Option Nat :=
  runs.findSome? fun (first, last, step, image) =>
    if first ≤ n && n ≤ last && (n - first) % step == 0 then some (image + (n - first)) else none

/-- The code point that the first fitting run moves to `n`. -/
def unshift? (runs : List Shift) (n : Nat) : Option Nat :=
  runs.findSome? fun (first, last, step, image) =>
    if image ≤ n && n ≤ image + (last - first) && (n - image) % step == 0 then
      some (first + (n - image))
    else none

/-- The pairs of code point and image that the runs make. -/
def pairs (runs : List Shift) : List (Nat × Nat) :=
  runs.flatMap fun (first, last, step, image) =>
    (List.range ((last - first) / step + 1)).map fun k => (first + k * step, image + k * step)

end Placeholders.Case
