import Placeholders.Filter.CamelCase
import Placeholders.Proofs.Pattern.Literal
import Placeholders.Proofs.Pattern.Splice
import Placeholders.Proofs.Template.Segments

/-!
# Word boundaries

A name in camel case has its word boundaries where a capital letter begins a word.  There are two
kinds, and splitting has a pattern for each: the last of several capital letters begins a word if a
small letter follows it (`RunEnds`), and every capital letter does after a small letter or digit
(`WordEnds`).  Both are said of the characters around an index, with no pattern in sight.

* `IsAt`, `RunEnds`, `WordEnds`, `IsBoundary` — boundaries; they are decidable.
* `compile_source` — the patterns are those of their sources.
* `matchAt_runEnd`, `matchAt_wordEnd` — each matches at the boundaries of its kind.
* `fill_template` — a match is replaced by its groups with the separator between them, verbatim.
* **`apply_eq_insertAt`** — splitting is putting the separator at the boundaries of the one kind and
  then, in what comes out, at those of the other.  A match takes the characters on both sides of its
  boundary, but no other boundary of the same kind begins with one of them.
-/

namespace Placeholders.CamelSplit

open Pattern Text
open Template (Segment Piece pieces expand fill_eq pieces_encode_append pieces_escapeLiteral_append)

/-! ## Boundaries -/

/-- The character at an index is of a category. -/
def IsAt (category : Category) (text : List Char) (i : Nat) : Prop :=
  text[i]?.map Category.of = some category

/-- Behind an index, the last of several capital letters begins a word. -/
def RunEnds (text : List Char) (i : Nat) : Prop :=
  IsAt .lu text i ∧ IsAt .lu text (i + 1) ∧ IsAt .ll text (i + 2)

/-- Behind an index, a capital letter comes after a small letter or digit. -/
def WordEnds (text : List Char) (i : Nat) : Prop :=
  (IsAt .ll text i ∨ IsAt .nd text i) ∧ IsAt .lu text (i + 1)

/-- Behind an index a word begins. -/
def IsBoundary (text : List Char) (i : Nat) : Prop := RunEnds text i ∨ WordEnds text i

instance (category : Category) (text : List Char) : DecidablePred (IsAt category text) :=
  fun i => inferInstanceAs (Decidable (text[i]?.map Category.of = some category))

instance (text : List Char) : DecidablePred (RunEnds text) := fun i =>
  inferInstanceAs (Decidable (IsAt .lu text i ∧ IsAt .lu text (i + 1) ∧ IsAt .ll text (i + 2)))

instance (text : List Char) : DecidablePred (WordEnds text) := fun i =>
  inferInstanceAs (Decidable ((IsAt .ll text i ∨ IsAt .nd text i) ∧ IsAt .lu text (i + 1)))

instance (text : List Char) : DecidablePred (IsBoundary text) := fun i =>
  inferInstanceAs (Decidable (RunEnds text i ∨ WordEnds text i))

lemma IsAt.unique {k k' : Category} {text : List Char} {i : Nat} (h : IsAt k text i)
    (h' : IsAt k' text i) : k = k' :=
  Option.some.inj (h.symm.trans h')

lemma looksAhead_runEnds : LooksAhead RunEnds := fun _ _ _ => Iff.rfl

lemma looksAhead_wordEnds : LooksAhead WordEnds := fun _ _ _ => Iff.rfl

lemma looksAhead_isBoundary : LooksAhead IsBoundary := fun _ _ _ => Iff.rfl

/-- There is a character at such an index. -/
lemma exists_of_isAt_succ {k : Category} {a : Char} {text : List Char} {i : Nat}
    (h : IsAt k (a :: text) (i + 1)) : ∃ b rest, text = b :: rest := by
  cases text with
  | nil => simp [IsAt] at h
  | cons b rest => exact ⟨b, rest, rfl⟩

lemma exists_of_runEnds {a : Char} {text : List Char} (h : RunEnds (a :: text) 0) :
    ∃ b c rest, text = b :: c :: rest := by
  obtain ⟨-, -, hthird⟩ := h
  obtain ⟨b, rest, rfl⟩ := exists_of_isAt_succ hthird
  obtain ⟨c, rest, rfl⟩ := exists_of_isAt_succ (a := b) (i := 0) hthird
  exact ⟨b, c, rest, rfl⟩

/-! ## Patterns -/

/-- The patterns are what their sources stand for. -/
lemma compile_source : ∀ p ∈ [runEnd, wordEnd], compile p.source = .ok p := by
  have hfits : ∀ p ∈ [runEnd, wordEnd], (compile p.source).isOk := by decide +kernel
  have hrun : read? runEnd.source.toList = some (.cat (.group 1 (.one (.category [.lu])))
      (.group 2 (.cat (.one (.category [.lu])) (.one (.category [.ll]))))) := rfl
  have hword : read? wordEnd.source.toList = some (.cat (.group 1 (.alt (.one (.category [.ll]))
      (.one (.category [.nd])))) (.group 2 (.one (.category [.lu])))) := rfl
  intro p hp
  have hsmall := ne_tooLarge_of_isOk (hfits p hp)
  simp only [List.mem_cons, List.not_mem_nil, or_false] at hp
  rcases hp with rfl | rfl
  · exact compile_of_read? hrun hsmall
  · exact compile_of_read? hword hsmall

lemma contains_category (category : Category) (c : Char) :
    (CharSet.category [category]).contains c = decide (Category.of c = category) := by
  by_cases h : Category.of c = category <;> simp [CharSet.contains, h]

lemma isAt_zero (category : Category) (c : Char) (rest : List Char) :
    IsAt category (c :: rest) 0 ↔ Category.of c = category := by
  simp [IsAt]

/-- The first pattern takes the three characters around a place where a run ends. -/
lemma matchAt_runEnd (before : Option Char) (text : List Char) :
    matchAt runEnd.expr before text
      = if RunEnds text 0 then some ⟨3, [(5, 3), (4, 1), (3, 1), (2, 0)]⟩ else none := by
  rw [matchAt_eq_run, runEnd, run_cat, run_group, capital, small]
  match text with
  | [] => rw [run_one_nil]; rfl
  | [a] =>
      rw [run_one_cons, run_close, run_group, run_cat, run_one_nil, ite_self]
      simp [RunEnds, IsAt]
  | [a, b] =>
      rw [run_one_cons, run_close, run_group, run_cat, run_one_cons, run_one_nil]
      simp [RunEnds, IsAt]
  | a :: b :: c :: rest =>
      simp only [run_one_cons, run_close, run_group, run_cat, run_done, contains_category,
        RunEnds, IsAt, List.getElem?_cons_zero, List.getElem?_cons_succ, Option.map_some,
        Option.some.injEq, decide_eq_true_eq, ite_and]

/-- The second pattern takes the two characters around a place where a word ends. -/
lemma matchAt_wordEnd (before : Option Char) (text : List Char) :
    matchAt wordEnd.expr before text
      = if WordEnds text 0 then some ⟨2, [(5, 2), (4, 1), (3, 1), (2, 0)]⟩ else none := by
  have hone (c : Char) :
      ¬ ((CharSet.category [.ll]).contains c ∧ (CharSet.category [.nd]).contains c) := by
    simp +contextual [contains_category]
  rw [matchAt_eq_run, wordEnd, run_cat, run_group, capital, small, digit]
  match text with
  | [] => rfl
  | [a] =>
      rw [run_either _ _ _ _ _ (hone a), run_close, run_group, run_one_nil, ite_self]
      simp [WordEnds, IsAt]
  | a :: b :: rest =>
      rw [run_either _ _ _ _ _ (hone a)]
      simp only [run_close, run_group, run_one_cons, run_done, contains_category,
        WordEnds, IsAt, List.getElem?_cons_zero, List.getElem?_cons_succ, Option.map_some,
        Option.some.injEq, Bool.or_eq_true, decide_eq_true_eq, ite_and]

/-! ## Replacing -/

/-- The template puts the separator between the two groups of a match. -/
lemma fill_template (separator : String) (groups : Groups) :
    Template.fill (template separator).toList groups
      = (groups 1).getD [] ++ (separator.toList ++ (groups 2).getD []) := by
  have hgroup1 : "$\x7b1\x7d".toList = (Segment.group 1).encode := by decide
  have hgroup2 : "$\x7b2\x7d".toList = (Segment.group 2).encode := by decide
  have hpieces : pieces (template separator).toList
      = .group 1 :: (separator.toList.map .char ++ [.group 2]) := by
    rw [template, String.toList_append, String.toList_append, hgroup1, hgroup2,
      String.toList_ofList, List.append_assoc, pieces_encode_append, pieces_escapeLiteral_append,
      ← List.append_nil (Segment.encode _), pieces_encode_append]
    rfl
  rw [fill_eq, expand, hpieces]
  simp [Piece.expand, List.flatMap_map]

/-- The first pass puts the separator where a run ends. -/
lemma replaceByTemplate_runEnd (separator text : String) :
    Substitution.replaceByTemplate runEnd (template separator) text
      = String.ofList (insertAt RunEnds separator.toList text.toList) := by
  rw [Substitution.replaceByTemplate, replaceAll]
  congr 1
  refine splice_eq_insertAt looksAhead_runEnds (fun before => ?_) (fun before a text hplace => ?_)
    (fun before a text hplace => ?_) text.toList false none
  · exact (matchAt_runEnd before []).trans (if_neg (by decide))
  · rw [matchAt_runEnd, if_neg hplace]
  · obtain ⟨b, c, rest, rfl⟩ := exists_of_runEnds hplace
    refine ⟨[b, c], rest, _, rfl, (matchAt_runEnd before _).trans (if_pos hplace), rfl, ?_, ?_⟩
    · rw [fill_template]
      rfl
    · -- the third character is a small letter, so no run of capital letters goes on there
      obtain ⟨-, -, hsmall⟩ := hplace
      have hb : ¬ RunEnds (b :: c :: rest) 0 := fun h => by cases hsmall.unique h.2.1
      have hc : ¬ RunEnds (c :: rest) 0 := fun h => by cases hsmall.unique h.1
      rw [insertAt_cons_of_not_place looksAhead_runEnds hb,
        insertAt_cons_of_not_place looksAhead_runEnds hc]
      rfl

/-- The second pass puts the separator where a word ends. -/
lemma replaceByTemplate_wordEnd (separator text : String) :
    Substitution.replaceByTemplate wordEnd (template separator) text
      = String.ofList (insertAt WordEnds separator.toList text.toList) := by
  rw [Substitution.replaceByTemplate, replaceAll]
  congr 1
  refine splice_eq_insertAt looksAhead_wordEnds (fun before => ?_) (fun before a text hplace => ?_)
    (fun before a text hplace => ?_) text.toList false none
  · exact (matchAt_wordEnd before []).trans (if_neg (by decide))
  · rw [matchAt_wordEnd, if_neg hplace]
  · obtain ⟨b, rest, rfl⟩ := exists_of_isAt_succ hplace.2
    refine ⟨[b], rest, _, rfl, (matchAt_wordEnd before _).trans (if_pos hplace), rfl, ?_, ?_⟩
    · rw [fill_template]
      rfl
    · -- the second character is a capital letter, so no word ends with it
      obtain ⟨-, hcapital⟩ := hplace
      have hb : ¬ WordEnds (b :: rest) 0 := by
        rintro ⟨h | h, -⟩ <;> cases hcapital.unique h
      rw [insertAt_cons_of_not_place looksAhead_wordEnds hb]
      rfl

/-- Splitting is two passes, and the second one sees what the first one has put in. -/
theorem apply_eq_insertAt (c : CamelSplit) (text : String) :
    c.apply text = String.ofList (insertAt WordEnds c.separator.toList
      (insertAt RunEnds c.separator.toList text.toList)) := by
  have hpasses : c.apply text = Substitution.replaceByTemplate wordEnd (template c.separator)
      (Substitution.replaceByTemplate runEnd (template c.separator) text) := rfl
  rw [hpasses, replaceByTemplate_runEnd, replaceByTemplate_wordEnd, String.toList_ofList]

end Placeholders.CamelSplit
