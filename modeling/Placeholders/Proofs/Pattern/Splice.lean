import Mathlib.Data.List.Basic
import Mathlib.Tactic.Common
import Placeholders.Pattern
import Placeholders.Proofs.Text.Insert

/-!
# Replacing matches one by one

Replacing goes over a text from left to right and has two kinds of steps: it passes over a character
at which nothing matches, or it replaces a match and goes on behind it.

* `splice_append` — the rest of a match is passed over.
* `splice_of_found` — a match that takes characters is replaced.
* **`splice_eq_insertAt`** — when replacing comes to putting a text between characters.  A match
  takes characters on both sides of such a place, so it could hide the next one; the condition is
  that no place is inside of the match, behind the one it is for, nor at its end.
-/

namespace Placeholders.Pattern

open Text

variable {e : Expr} {f : Groups → List Char}

/-- The rest of a match is passed over, and then a match has just ended. -/
lemma splice_append : ∀ {w : List Char} (_ : w ≠ []) (rest : List Char) (ended : Bool)
    (before : Option Char),
    splice e f w.length ended before (w ++ rest) = splice e f 0 true w.getLast? rest
  | [c], _, rest, ended, before => rfl
  | c :: d :: w, _, rest, ended, before => by
      rw [List.length_cons, List.cons_append, splice, splice_append (List.cons_ne_nil d w),
        List.getLast?_cons_cons]

lemma splice_of_found {found : Found} {before : Option Char} {c : Char} {w rest : List Char}
    (h : matchAt e before (c :: (w ++ rest)) = some found) (hlength : found.length = w.length + 1)
    (ended : Bool) :
    splice e f 0 ended before (c :: (w ++ rest))
      = f (found.group? (c :: (w ++ rest))) ++ splice e f 0 true (c :: w).getLast? rest := by
  rw [splice, h]
  simp only [hlength]
  congr 1
  cases w with
  | nil => rfl
  | cons d w =>
      rw [splice_append (List.cons_ne_nil d w), List.getLast?_cons_cons]

lemma splice_of_none {before : Option Char} {c : Char} {rest : List Char}
    (h : matchAt e before (c :: rest) = none) (ended : Bool) :
    splice e f 0 ended before (c :: rest) = c :: splice e f 0 false (some c) rest := by
  rw [splice, h]

/-- **Replacing matches puts a text between characters** if each match is for one place, takes the
character in front of it and some behind it, and no other place is there up to its end. -/
theorem splice_eq_insertAt {place : List Char → Nat → Prop} [∀ text, DecidablePred (place text)]
    {new : List Char} (hahead : LooksAhead place)
    (hend : ∀ before, matchAt e before [] = none)
    (hnone : ∀ before c rest, ¬ place (c :: rest) 0 → matchAt e before (c :: rest) = none)
    (hfound : ∀ before c text, place (c :: text) 0 → ∃ w rest found, text = w ++ rest
      ∧ matchAt e before (c :: text) = some found ∧ found.length = w.length + 1
      ∧ f (found.group? (c :: text)) = c :: (new ++ w)
      ∧ insertAt place new text = w ++ insertAt place new rest)
    (text : List Char) (ended : Bool) (before : Option Char) :
    splice e f 0 ended before text = insertAt place new text := by
  match text with
  | [] => rw [splice, hend]; rfl
  | c :: text =>
      by_cases hplace : place (c :: text) 0
      · obtain ⟨w, rest, found, htext, hmatch, hlength, hgroups, hinsert⟩ :=
          hfound before c text hplace
        have hshorter : rest.length < (c :: text).length := by
          rw [htext, List.length_cons, List.length_append]
          omega
        have ih := splice_eq_insertAt hahead hend hnone hfound rest true (c :: w).getLast?
        subst htext
        rw [splice_of_found hmatch hlength, hgroups, ih, insertAt_cons_of_place hahead hplace,
          hinsert, List.cons_append, List.append_assoc]
      · have ih := splice_eq_insertAt hahead hend hnone hfound text false (some c)
        rw [splice_of_none (hnone before c text hplace), ih,
          insertAt_cons_of_not_place hahead hplace]
termination_by text.length

end Placeholders.Pattern
