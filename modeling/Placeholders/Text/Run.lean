/-!
# Runs of code points

* `Run` — the code points from a first to a last one.
* `inRuns` — membership in a list of runs.
* `Run.edges`, `Run.between` — from runs to the places where membership changes, and back.
-/

namespace Placeholders

/-- First and last code point of a run; both belong to it. -/
abbrev Run := Nat × Nat

/-- Is the code point in one of the runs? -/
def inRuns (runs : List Run) (n : Nat) : Bool :=
  runs.any fun run => run.1 ≤ n && n ≤ run.2

namespace Run

/-- The code points at which membership in one of the runs can change. -/
def edges (runs : List Run) : List Nat :=
  runs.flatMap fun run => [run.1, run.2 + 1]

/-! ## From edges to runs -/

/-- The first code point that is a character, from `n` on.  Those from D800 to DFFF are none. -/
def pastGap (n : Nat) : Nat :=
  if 0xD800 ≤ n ∧ n ≤ 0xDFFF then 0xE000 else n

/-- The last code point before `n` that is a character. -/
def lastBefore (n : Nat) : Nat :=
  if n = 0xE000 then 0xD7FF else n - 1

/-- The runs of what `holds`, which changes at the given places only.  They ascend.  A run that is
still open began at `start`. -/
def scan (holds : Nat → Bool) : (start : Option Nat) → List Nat → List Run
  | none, [] => []
  | some first, [] => [(first, 0x10FFFF)]
  | start, n :: rest =>
    match start, holds n with
    | none, false => scan holds none rest
    | none, true => scan holds (some n) rest
    | some first, true => scan holds (some first) rest
    | some first, false => (first, lastBefore n) :: scan holds none rest

/-- The runs of what `holds`, ascending, apart from each other and as long as can be.  It may change
at the given edges only. -/
def between (holds : Nat → Bool) (edges : List Nat) : List Run :=
  scan holds none ((0 :: (edges.filter (· < 0x110000)).map pastGap).mergeSort)

end Run

end Placeholders
