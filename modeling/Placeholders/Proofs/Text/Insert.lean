import Mathlib.Data.List.Basic
import Mathlib.Tactic.Common
import Placeholders.Proofs.Template

/-!
# Putting a text between characters

Where something is put in is said by the indices of the characters that it comes behind.  Whether it
is put in often depends only on what is there from such a character on, and then the text can be
gone over from left to right.

* `insertAt` — a text with another one put in at some places.
* `LooksAhead` — places that do not depend on what comes before them.
* `insertAt_cons` — one step of going over a text.
* `head?_insertAt`, `sublist_insertAt` — what stays: all characters, and in front the first one.
* `insertAt_of_forall_not` — a text without such places.
* `replaceChar_insertAt` — what was put in can be exchanged.
-/

namespace Placeholders.Text

variable {place : List Char → Nat → Prop} [∀ text, DecidablePred (place text)]
  {new text : List Char}

variable (place new) in
/-- Puts a text behind every character that has its index at a place. -/
def insertAt (text : List Char) : List Char :=
  text.zipIdx.flatMap fun (c, i) => c :: if place text i then new else []

/-- What comes before a place does not matter. -/
def LooksAhead (place : List Char → Nat → Prop) : Prop :=
  ∀ c rest i, place (c :: rest) (i + 1) ↔ place rest i

lemma insertAt_cons (h : LooksAhead place) (c : Char) (rest : List Char) :
    insertAt place new (c :: rest)
      = c :: ((if place (c :: rest) 0 then new else []) ++ insertAt place new rest) := by
  rw [insertAt, List.zipIdx_cons, List.flatMap_cons, Nat.zero_add, List.zipIdx_succ,
    List.flatMap_map, List.cons_append]
  simp only [h c rest]
  rfl

lemma insertAt_cons_of_place (h : LooksAhead place) {c : Char} {rest : List Char}
    (hplace : place (c :: rest) 0) :
    insertAt place new (c :: rest) = c :: (new ++ insertAt place new rest) := by
  rw [insertAt_cons h, if_pos hplace]

lemma insertAt_cons_of_not_place (h : LooksAhead place) {c : Char} {rest : List Char}
    (hplace : ¬ place (c :: rest) 0) :
    insertAt place new (c :: rest) = c :: insertAt place new rest := by
  rw [insertAt_cons h, if_neg hplace, List.nil_append]

lemma head?_insertAt (h : LooksAhead place) (text : List Char) :
    (insertAt place new text).head? = text.head? := by
  cases text with
  | nil => rfl
  | cons c rest => rw [insertAt_cons h, List.head?_cons, List.head?_cons]

/-- No character is lost, and they stay in their order. -/
lemma sublist_insertAt (h : LooksAhead place) (text : List Char) :
    text.Sublist (insertAt place new text) := by
  induction text with
  | nil => exact List.Sublist.slnil
  | cons c rest ih =>
      rw [insertAt_cons h]
      exact (ih.trans (List.sublist_append_right _ _)).cons_cons c

/-- In front of a text, each character takes its room at least. -/
lemma length_add_le_length_insertAt (h : LooksAhead place) (u v : List Char) :
    u.length + (insertAt place new v).length ≤ (insertAt place new (u ++ v)).length := by
  induction u with
  | nil => simp
  | cons c u ih =>
      rw [List.cons_append, insertAt_cons h]
      simp only [List.length_cons, List.length_append]
      omega

/-- Where there is no place, nothing is put in. -/
lemma insertAt_of_forall_not (h : ∀ i, ¬ place text i) : insertAt place new text = text := by
  simp only [insertAt, if_neg (h _), ← List.map_eq_flatMap]
  exact List.zipIdx_map_fst 0 text

lemma insertAt_nil (text : List Char) : insertAt place [] text = text := by
  simp only [insertAt, ite_self, ← List.map_eq_flatMap]
  exact List.zipIdx_map_fst 0 text

/-- A character that is not in the text can be put in first and be exchanged afterwards. -/
lemma replaceChar_insertAt (h : LooksAhead place) {mark : Char} (hmark : mark ∉ text) :
    Template.replaceChar mark new (insertAt place [mark] text) = insertAt place new text := by
  induction text with
  | nil => rfl
  | cons c rest ih =>
      rw [List.mem_cons, not_or] at hmark
      have hkept : (if c = mark then new else [c]) = [c] := if_neg (Ne.symm hmark.1)
      by_cases hplace : place (c :: rest) 0
      · rw [insertAt_cons_of_place h hplace, insertAt_cons_of_place h hplace, List.singleton_append,
          Template.replaceChar_cons, Template.replaceChar_cons, hkept, if_pos rfl, ih hmark.2]
        rfl
      · rw [insertAt_cons_of_not_place h hplace, insertAt_cons_of_not_place h hplace,
          Template.replaceChar_cons, hkept, ih hmark.2]
        rfl

end Placeholders.Text
