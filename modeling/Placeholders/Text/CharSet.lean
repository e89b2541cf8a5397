import Placeholders.Text.Case.Variant
import Placeholders.Text.Category
import Placeholders.Text.Run

/-!
# Sets of characters

A set of characters is described by ranges, categories and the operations of set algebra.  The
description is kept as it is, and membership is read off it; so complement, intersection and
closure under case hold by definition.

* `CharSet` — a described set; `CharSet.contains` — membership.
* `CharSet.edges` — the places where membership can change; there are few.
* `CharSet.toRuns` — the set as a list of runs, found by looking at the edges.
-/

namespace Placeholders

/-- A description of a set of characters. -/
inductive CharSet where
  | none
  | single (c : Char)
  | range (first last : Char)
  | category (categories : List Category)
  | runs (rs : List Run)
  | union (a b : CharSet)
  | inter (a b : CharSet)
  /-- what is in the first set and not in the second -/
  | diff (a b : CharSet)
  | compl (a : CharSet)
  /-- closure under case, within ASCII or in general -/
  | folded (ascii : Bool) (a : CharSet)

namespace CharSet

/-- Membership. -/
def contains : CharSet → Char → Bool
  | .none, _ => false
  | .single c, x => x == c
  | .range first last, x => first ≤ x && x ≤ last
  | .category categories, x => categories.contains (Category.of x)
  | .runs rs, x => inRuns rs x.toNat
  | .union a b, x => a.contains x || b.contains x
  | .inter a b, x => a.contains x && b.contains x
  | .diff a b, x => a.contains x && !b.contains x
  | .compl a, x => !a.contains x
  | .folded true a, x => (Case.asciiVariants x).any a.contains
  | .folded false a, x => (Case.variants x).any a.contains

/-- The union of several sets. -/
def unions : List CharSet → CharSet
  | [] => .none
  | [a] => a
  | a :: rest => .union a (unions rest)

/-- What is in exactly one of two sets. -/
def symmDiff (a b : CharSet) : CharSet := .union (a.diff b) (b.diff a)

/-! ## Runs -/

/-- The code points at which membership can change.  Closure under case brings in the variants of
every member. -/
def edges : CharSet → List Nat
  | .none => []
  | .single c => [c.toNat, c.toNat + 1]
  | .range first last => [first.toNat, last.toNat + 1]
  | .category categories => Category.edges categories
  | .runs rs => Run.edges rs
  | .union a b => a.edges ++ b.edges
  | .inter a b => a.edges ++ b.edges
  | .diff a b => a.edges ++ b.edges
  | .compl a => a.edges
  | .folded ascii a =>
    let met := (Case.classes ascii).filter fun members => members.any (a.contains ∘ Char.ofNat)
    a.edges ++ met.flatMap fun members => members.flatMap fun n => [n, n + 1]

/-- The members as runs: ascending, apart from each other and as long as can be. -/
def toRuns (a : CharSet) : List Run :=
  Run.between (fun n => a.contains (Char.ofNat n)) a.edges

end CharSet

end Placeholders
