import Placeholders.Text.Category.Basic
import Placeholders.Text.Category.Runs

/-!
# The general category of a character

* `Category.of` — the category of a character: by rule for ASCII, from the runs of the character
  database above it.
* `Category.edges` — where the characters of some categories may begin and end.
-/

namespace Placeholders.Category

/-- Bisection between two indices.  The interval halves at each step, so the fuel that the caller
gives, the number of runs, is more than enough. -/
def bisect (n : Nat) : Nat → Nat → Nat → Option Category
  | 0, _, _ => none
  | fuel + 1, low, high =>
    if low < high then
      let mid := (low + high) / 2
      match runs[mid]? with
      | none => none
      | some (first, last, category) =>
        if n < first then bisect n fuel low mid
        else if last < n then bisect n fuel (mid + 1) high
        else some category
    else none

/-- The category above ASCII: a uniform run, an alternating run, or unassigned. -/
def ofTable (n : Nat) : Category :=
  match bisect n runs.size 0 runs.size with
  | some category => category
  | none =>
    match alternating.find? fun run => run.1 ≤ n && n ≤ run.2 with
    | some (first, _) => if (n - first) % 2 = 0 then .lu else .ll
    | none => .cn

/-- The general category of a character. -/
def of (c : Char) : Category :=
  if c.toNat < 128 then ofAscii c.toNat else ofTable c.toNat

/-! ## Edges -/

/-- The code points at which membership in one of the categories can change.  In ASCII and in the
alternating runs every code point may be one.  What is unassigned lies between all other runs. -/
def edges (categories : List Category) : List Nat :=
  let shows := fun category => categories.contains category || categories.contains .cn
  let uniform := runs.toList.filter fun (_, _, category) => shows category
  let taking := if shows .lu || shows .ll then alternating else []
  List.range 129 ++ (uniform.flatMap fun (first, last, _) => [first, last + 1]) ++
    taking.flatMap fun (first, last) => List.range' first (last + 2 - first)

end Placeholders.Category
