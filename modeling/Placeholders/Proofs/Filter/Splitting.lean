import Placeholders.Proofs.Filter.Boundary

/-!
# Splitting at word boundaries

Splitting makes two passes over a name, and the second one goes over a text with separators in it.
So what a separator is made of can matter: if a word ends in it, or ends in it as soon as a capital
letter comes next, the second pass puts a separator into the one that the first pass has put in.

* `Inert` — a separator in which no word ends, in front of a capital letter as everywhere.
* `insertAt_insertAt` — with such a separator both passes together put it at all boundaries, once at
  each; `length_lt_length_insertAt_insertAt` — with any other one more comes out, unless the first
  pass does nothing.  Both go over the text from left to right: at each character the first pass
  puts something in, or the second one, or none of them.
* `IsNeutral` — a separator without letters and digits; `not_isBoundary_insertAt` — where it was put
  in there are no boundaries left.
* **`run_toFilter_of_isNeutral`** — such a separator is put just at the boundaries, and doing it
  again changes nothing.
* **`run_ofSeparator_iff`** — when the separator has no influence on where it is put;
  `not_exchanged` — an input where it has.
-/

namespace Placeholders.CamelSplit

open Text

variable {separator text : List Char}

/-! ## What comes behind a character -/

lemma isAt_head {k : Category} {u v : List Char} (h : u.head? = v.head?) :
    IsAt k u 0 ↔ IsAt k v 0 := by
  rw [IsAt, IsAt, ← List.head?_eq_getElem?, ← List.head?_eq_getElem?, h]

/-- Whether a word ends with a character is seen from the next one. -/
lemma wordEnds_cons_iff {c : Char} {u v : List Char} (h : IsAt .lu u 0 ↔ IsAt .lu v 0) :
    WordEnds (c :: u) 0 ↔ WordEnds (c :: v) 0 :=
  and_congr_right fun _ => h

lemma not_wordEnds_of_isAt {i : Nat} (h : IsAt .lu text i) : ¬ WordEnds text i := by
  rintro ⟨hsmall | hdigit, -⟩
  · cases h.unique hsmall
  · cases h.unique hdigit

/-! ## Separators in which no word ends -/

/-- No word ends in the separator, not even if a capital letter comes next. -/
def Inert (separator : List Char) : Prop := ∀ i, ¬ WordEnds (separator ++ ['A']) i

lemma inert_cons {c : Char} :
    Inert (c :: separator) ↔ ¬ WordEnds (c :: (separator ++ ['A'])) 0 ∧ Inert separator :=
  (Nat.and_forall_add_one (p := fun i => ¬ WordEnds (c :: (separator ++ ['A'])) i)).symm

/-- In front of a capital letter a separator is as in front of any other. -/
lemma wordEnds_cons_append {c : Char} {u v : List Char} (hv : IsAt .lu v 0) :
    WordEnds (c :: (u ++ v)) 0 ↔ WordEnds (c :: (u ++ ['A'])) 0 := by
  refine wordEnds_cons_iff ?_
  cases u with
  | nil => exact iff_of_true hv (by decide)
  | cons d u => exact Iff.rfl

lemma insertAt_append_of_inert {u v new : List Char} (hu : Inert u) (hv : IsAt .lu v 0) :
    insertAt WordEnds new (u ++ v) = u ++ insertAt WordEnds new v := by
  induction u with
  | nil => rfl
  | cons c u ih =>
      obtain ⟨hc, hu⟩ := inert_cons.mp hu
      rw [List.cons_append, insertAt_cons_of_not_place looksAhead_wordEnds
        (mt (wordEnds_cons_append hv).mp hc), ih hu, List.cons_append]

lemma inert_nil : Inert [] := by
  rintro i ⟨-, h⟩
  simp [IsAt] at h

/-- In any other separator something is put in. -/
lemma length_lt_of_not_inert {u v new : List Char} (hu : ¬ Inert u) (hv : IsAt .lu v 0)
    (hnew : new ≠ []) :
    u.length + (insertAt WordEnds new v).length < (insertAt WordEnds new (u ++ v)).length := by
  have hpos := List.length_pos_of_ne_nil hnew
  induction u with
  | nil => exact absurd inert_nil hu
  | cons c u ih =>
      by_cases hc : WordEnds (c :: (u ++ v)) 0
      · have hle : u.length + (insertAt WordEnds new v).length
            ≤ (insertAt WordEnds new (u ++ v)).length :=
          length_add_le_length_insertAt looksAhead_wordEnds u v
        rw [List.cons_append, insertAt_cons_of_place looksAhead_wordEnds hc]
        simp only [List.length_cons, List.length_append]
        omega
      · have hlt := ih fun h => hu (inert_cons.mpr ⟨mt (wordEnds_cons_append hv).mpr hc, h⟩)
        rw [List.cons_append, insertAt_cons_of_not_place looksAhead_wordEnds hc]
        simp only [List.length_cons]
        omega

/-! ## Two passes -/

/-- Behind a capital letter the second pass puts nothing in. -/
lemma insertAt_insertAt_cons_of_runEnds {c : Char} {rest : List Char}
    (h : RunEnds (c :: rest) 0) :
    insertAt WordEnds separator (insertAt RunEnds separator (c :: rest))
      = c :: insertAt WordEnds separator (separator ++ insertAt RunEnds separator rest) := by
  have hc : ¬ WordEnds (c :: (separator ++ insertAt RunEnds separator rest)) 0 :=
    not_wordEnds_of_isAt h.1
  rw [insertAt_cons_of_place looksAhead_runEnds h,
    insertAt_cons_of_not_place looksAhead_wordEnds hc]

lemma insertAt_insertAt_cons_of_not_runEnds {c : Char} {rest : List Char}
    (h : ¬ RunEnds (c :: rest) 0) :
    insertAt WordEnds separator (insertAt RunEnds separator (c :: rest))
      = c :: ((if WordEnds (c :: rest) 0 then separator else [])
        ++ insertAt WordEnds separator (insertAt RunEnds separator rest)) := by
  rw [insertAt_cons_of_not_place looksAhead_runEnds h, insertAt_cons looksAhead_wordEnds]
  simp only [wordEnds_cons_iff (isAt_head (head?_insertAt looksAhead_runEnds rest))]

/-- The next character after a place is the same after the first pass. -/
lemma isAt_insertAt_of_runEnds {c : Char} {rest : List Char} (h : RunEnds (c :: rest) 0) :
    IsAt .lu (insertAt RunEnds separator rest) 0 :=
  (isAt_head (head?_insertAt looksAhead_runEnds rest)).mpr h.2.1

/-- **Two passes put the separator at the boundaries**, if the second one does not find any in what
the first one has put in. -/
theorem insertAt_insertAt (h : Inert separator ∨ ∀ i, ¬ RunEnds text i) :
    insertAt WordEnds separator (insertAt RunEnds separator text)
      = insertAt IsBoundary separator text := by
  induction text with
  | nil => rfl
  | cons c rest ih =>
      have ih := ih (h.imp_right fun h i => h (i + 1))
      by_cases hrun : RunEnds (c :: rest) 0
      · have hinert : Inert separator := h.resolve_right fun h => h 0 hrun
        rw [insertAt_insertAt_cons_of_runEnds hrun,
          insertAt_append_of_inert hinert (isAt_insertAt_of_runEnds hrun), ih,
          insertAt_cons_of_place looksAhead_isBoundary (Or.inl hrun)]
      · have hboundary : IsBoundary (c :: rest) 0 ↔ WordEnds (c :: rest) 0 := or_iff_right hrun
        rw [insertAt_insertAt_cons_of_not_runEnds hrun, ih, insertAt_cons looksAhead_isBoundary]
        simp only [hboundary]

/-- Otherwise more is put in than once at each boundary. -/
lemma length_le_length_insertAt_insertAt (separator text : List Char) :
    (insertAt IsBoundary separator text).length
      ≤ (insertAt WordEnds separator (insertAt RunEnds separator text)).length := by
  induction text with
  | nil => exact Nat.le_refl _
  | cons c rest ih =>
      by_cases hrun : RunEnds (c :: rest) 0
      · have hle : separator.length
              + (insertAt WordEnds separator (insertAt RunEnds separator rest)).length
            ≤ (insertAt WordEnds separator (separator ++ insertAt RunEnds separator rest)).length :=
          length_add_le_length_insertAt looksAhead_wordEnds _ _
        rw [insertAt_insertAt_cons_of_runEnds hrun,
          insertAt_cons_of_place looksAhead_isBoundary (Or.inl hrun)]
        simp only [List.length_cons, List.length_append]
        omega
      · have hboundary : IsBoundary (c :: rest) 0 ↔ WordEnds (c :: rest) 0 := or_iff_right hrun
        rw [insertAt_insertAt_cons_of_not_runEnds hrun, insertAt_cons looksAhead_isBoundary]
        simp only [hboundary, List.length_cons, List.length_append]
        omega

lemma length_lt_length_insertAt_insertAt (hinert : ¬ Inert separator) {i : Nat}
    (hi : RunEnds text i) :
    (insertAt IsBoundary separator text).length
      < (insertAt WordEnds separator (insertAt RunEnds separator text)).length := by
  have hne : separator ≠ [] := fun h => hinert (h ▸ inert_nil)
  induction text generalizing i with
  | nil => exact absurd hi.1 (by simp [IsAt])
  | cons c rest ih =>
      by_cases hrun : RunEnds (c :: rest) 0
      · have hhead : IsAt .lu (insertAt RunEnds separator rest) 0 := isAt_insertAt_of_runEnds hrun
        have hlt := length_lt_of_not_inert hinert hhead hne
        have hle := length_le_length_insertAt_insertAt separator rest
        rw [insertAt_insertAt_cons_of_runEnds hrun,
          insertAt_cons_of_place looksAhead_isBoundary (Or.inl hrun)]
        simp only [List.length_cons, List.length_append]
        omega
      · cases i with
        | zero => exact absurd hi hrun
        | succ i =>
            have ih := ih hi
            have hboundary : IsBoundary (c :: rest) 0 ↔ WordEnds (c :: rest) 0 := or_iff_right hrun
            rw [insertAt_insertAt_cons_of_not_runEnds hrun, insertAt_cons looksAhead_isBoundary]
            simp only [hboundary, List.length_cons, List.length_append]
            omega

/-- The two passes put the separator just at the boundaries exactly under this condition. -/
lemma insertAt_insertAt_iff (separator text : List Char) :
    insertAt WordEnds separator (insertAt RunEnds separator text)
        = insertAt IsBoundary separator text
      ↔ Inert separator ∨ ∀ i, ¬ RunEnds text i := by
  refine ⟨fun h => ?_, insertAt_insertAt⟩
  by_contra hnot
  rw [not_or, not_forall] at hnot
  obtain ⟨hinert, i, hi⟩ := hnot
  have hlt := length_lt_length_insertAt_insertAt hinert (not_not.mp hi)
  exact absurd (congrArg List.length h) hlt.ne'

/-! ## Separators without letters and digits -/

/-- A text without capital letters, small letters and digits. -/
def IsNeutral (separator : List Char) : Prop :=
  ∀ x ∈ separator, Category.of x ∉ [Category.lu, .ll, .nd]

instance : DecidablePred IsNeutral := fun separator =>
  List.decidableBAll (fun x => Category.of x ∉ [Category.lu, .ll, .nd]) separator

lemma not_isAt_of_neutral {c : Char} (hc : Category.of c ∉ [Category.lu, .ll, .nd])
    (u : List Char) {k : Category} (hk : k ∈ [Category.lu, .ll, .nd]) : ¬ IsAt k (c :: u) 0 := by
  rw [isAt_zero]
  rintro rfl
  exact hc hk

lemma inert_of_isNeutral (h : IsNeutral separator) : Inert separator := by
  induction separator with
  | nil => exact inert_nil
  | cons c separator ih =>
      rw [IsNeutral, List.forall_mem_cons] at h
      refine inert_cons.mpr ⟨?_, ih h.2⟩
      rintro ⟨hsmall | hdigit, -⟩
      · exact not_isAt_of_neutral h.1 _ (by decide) hsmall
      · exact not_isAt_of_neutral h.1 _ (by decide) hdigit

/-- At a boundary a capital letter comes next. -/
lemma IsBoundary.isAt {c : Char} {rest : List Char} (h : IsBoundary (c :: rest) 0) :
    IsAt .lu rest 0 :=
  h.elim (fun h => h.2.1) (fun h => h.2)

/-- Nothing is put in behind a character of such a text. -/
lemma not_isBoundary_append {u v : List Char} (hu : IsNeutral u) (hv : ∀ i, ¬ IsBoundary v i) :
    ∀ i, ¬ IsBoundary (u ++ v) i := by
  induction u with
  | nil => exact hv
  | cons c u ih =>
      rw [IsNeutral, List.forall_mem_cons] at hu
      have hnot {k : Category} := not_isAt_of_neutral (k := k) hu.1 (u ++ v)
      rintro (_ | i) h
      · rcases h with hrun | ⟨hsmall | hdigit, -⟩
        · exact hnot (by decide) hrun.1
        · exact hnot (by decide) hsmall
        · exact hnot (by decide) hdigit
      · exact ih hu.2 i h

lemma not_isAt_append_of_isNeutral (hneutral : IsNeutral separator) (hne : separator ≠ [])
    (u : List Char) {k : Category} (hk : k ∈ [Category.lu, .ll, .nd]) :
    ¬ IsAt k (separator ++ u) 0 := by
  obtain ⟨x, more, rfl⟩ := List.exists_cons_of_ne_nil hne
  exact not_isAt_of_neutral (hneutral x List.mem_cons_self) _ hk

/-- What is put in behind the next characters makes no boundary in front of them. -/
lemma isBoundary_of_insertAt (hneutral : IsNeutral separator) (hne : separator ≠ []) {c : Char}
    {rest : List Char} (h : IsBoundary (c :: insertAt IsBoundary separator rest) 0) :
    IsBoundary (c :: rest) 0 := by
  have hhead {k : Category} (u : List Char) :
      IsAt k (insertAt IsBoundary separator u) 0 ↔ IsAt k u 0 :=
    isAt_head (head?_insertAt looksAhead_isBoundary u)
  rcases h with ⟨hfirst, hsecond, hthird⟩ | hword
  · cases rest with
    | nil => exact absurd hsecond (by simp [insertAt, IsAt])
    | cons d rest =>
        by_cases hd : IsBoundary (d :: rest) 0
        · -- the third character is the first of a separator then, which is no small letter
          rw [insertAt_cons_of_place looksAhead_isBoundary hd] at hthird
          exact absurd hthird (not_isAt_append_of_isNeutral hneutral hne
            (insertAt IsBoundary separator rest) (by decide))
        · rw [insertAt_cons_of_not_place looksAhead_isBoundary hd] at hsecond hthird
          exact Or.inl ⟨hfirst, hsecond, (hhead rest).mp hthird⟩
  · exact Or.inr ((wordEnds_cons_iff (hhead rest)).mp hword)

/-- Where the separator was put in there is no boundary any more, and no other one comes up. -/
lemma not_isBoundary_insertAt (hneutral : IsNeutral separator) (hne : separator ≠ [])
    (text : List Char) : ∀ i, ¬ IsBoundary (insertAt IsBoundary separator text) i := by
  induction text with
  | nil => exact fun i h => by simp [insertAt, IsBoundary, RunEnds, WordEnds, IsAt] at h
  | cons c rest ih =>
      by_cases hc : IsBoundary (c :: rest) 0
      · rw [insertAt_cons_of_place looksAhead_isBoundary hc]
        rintro (_ | i) h
        · exact not_isAt_append_of_isNeutral hneutral hne _ (by decide) h.isAt
        · exact not_isBoundary_append hneutral ih i h
      · rw [insertAt_cons_of_not_place looksAhead_isBoundary hc]
        rintro (_ | i) h
        · exact hc (isBoundary_of_insertAt hneutral hne h)
        · exact ih i h

/-! ## The filter -/

lemma run_toFilter (c : CamelSplit) (text : String) :
    c.toFilter.run (.string text) = .ok (.string (c.apply text)) := rfl

lemma apply_of_isNeutral {c : CamelSplit} (hneutral : IsNeutral c.separator.toList)
    (text : String) :
    c.apply text = String.ofList (insertAt IsBoundary c.separator.toList text.toList) := by
  rw [apply_eq_insertAt, insertAt_insertAt (Or.inl (inert_of_isNeutral hneutral))]

/-- **A separator without letters and digits is put in once at each boundary** and nowhere else, and
all characters stay.  What comes out has all its words separated, so doing it again changes
nothing. -/
theorem run_toFilter_of_isNeutral (c : CamelSplit) (hneutral : IsNeutral c.separator.toList)
    (text : String) :
    let out := String.ofList (insertAt IsBoundary c.separator.toList text.toList)
    c.toFilter.run (.string text) = .ok (.string out)
      ∧ text.toList.Sublist out.toList
      ∧ c.toFilter.run (.string out) = .ok (.string out) := by
  intro out
  have happly : c.apply text = out := apply_of_isNeutral hneutral text
  refine ⟨?_, ?_, ?_⟩
  · rw [run_toFilter, happly]
  · rw [String.toList_ofList]
    exact sublist_insertAt looksAhead_isBoundary text.toList
  · have hagain : insertAt IsBoundary c.separator.toList out.toList = out.toList := by
      rw [String.toList_ofList]
      by_cases hne : c.separator.toList = []
      · rw [hne, insertAt_nil]
      · exact insertAt_of_forall_not (not_isBoundary_insertAt hneutral hne text.toList)
    rw [run_toFilter, apply_of_isNeutral hneutral, hagain, String.ofList_toList]

/-- Underscores and dashes are such separators. -/
theorem run_toFilter_underscore_dash :
    (∀ c ∈ [underscore, dash], IsNeutral c.separator.toList)
      ∧ underscore.toFilter.run (.string "parseHTML2Go") = .ok (.string "parse_HTML2_Go")
      ∧ dash.toFilter.run (.string "parse-HTML2-Go") = .ok (.string "parse-HTML2-Go") := by
  have hneutral : ∀ c ∈ [underscore, dash], IsNeutral c.separator.toList := by decide
  have hunderscore := run_toFilter_of_isNeutral underscore (hneutral _ (by simp)) "parseHTML2Go"
  have hdash := run_toFilter_of_isNeutral dash (hneutral _ (by simp)) "parseHTML2Go"
  exact ⟨hneutral, hunderscore.1, hdash.2.2⟩

/-- **The separator has no influence on where it is put**, as long as the second pass finds nothing
in it, or the first pass has put it in nowhere; and otherwise it has. -/
theorem run_ofSeparator_iff (separator text : String) (hfree : '_' ∉ text.toList) :
    ∃ out, underscore.toFilter.run (.string text) = .ok (.string out)
      ∧ ((ofSeparator separator).toFilter.run (.string text)
            = .ok (.string (String.ofList (Template.replaceChar '_' separator.toList out.toList)))
          ↔ Inert separator.toList ∨ ∀ i, ¬ RunEnds text.toList i) := by
  have hneutral : IsNeutral underscore.separator.toList := by decide
  refine ⟨_, by rw [run_toFilter, apply_of_isNeutral hneutral], ?_⟩
  have hexchange : Template.replaceChar '_' separator.toList (insertAt IsBoundary ['_'] text.toList)
      = insertAt IsBoundary separator.toList text.toList :=
    replaceChar_insertAt looksAhead_isBoundary hfree
  have hunderscore : underscore.separator.toList = ['_'] := rfl
  rw [← insertAt_insertAt_iff, run_toFilter, apply_eq_insertAt, String.toList_ofList, hunderscore,
    hexchange, Except.ok.injEq, Json.string.injEq, String.ofList_inj]
  rfl

/-- Digits do no harm if something follows them in the separator. -/
theorem run_ofSeparator_group :
    '_' ∉ "HTMLParser2Go".toList ∧ Inert "$1.".toList
      ∧ (ofSeparator "$1.").toFilter.run (.string "HTMLParser2Go")
        = .ok (.string "HTML$1.Parser2$1.Go") := by
  have hfree : '_' ∉ "HTMLParser2Go".toList := by decide
  have hinert : Inert "$1.".toList :=
    inert_cons.mpr ⟨by decide, inert_cons.mpr ⟨by decide, inert_cons.mpr ⟨by decide, inert_nil⟩⟩⟩
  refine ⟨hfree, hinert, ?_⟩
  obtain ⟨out, hout, hiff⟩ := run_ofSeparator_iff "$1." "HTMLParser2Go" hfree
  have hunderscore : underscore.apply "HTMLParser2Go" = "HTML_Parser2_Go" := by decide +kernel
  obtain rfl : "HTML_Parser2_Go" = out := by
    rw [run_toFilter, hunderscore] at hout
    cases hout
    rfl
  exact hiff.mpr (Or.inl hinert)

/-- **A separator that ends in a small letter or digit can be put in twice.**  The first pass puts
it in front of a capital letter, and then a word ends there for the second pass. -/
theorem not_exchanged :
    (ofSeparator "a").toFilter.run (.string "ABc") = .ok (.string "AaaBc")
      ∧ ¬ ∀ separator text : String, '_' ∉ text.toList →
        ∃ out, underscore.toFilter.run (.string text) = .ok (.string out)
          ∧ (ofSeparator separator).toFilter.run (.string text)
            = .ok (.string
              (String.ofList (Template.replaceChar '_' separator.toList out.toList))) := by
  have hrun : (ofSeparator "a").apply "ABc" = "AaaBc" := by decide +kernel
  have hunderscore : underscore.apply "ABc" = "A_Bc" := by decide +kernel
  rw [run_toFilter, hrun]
  refine ⟨rfl, fun h => ?_⟩
  obtain ⟨out, hout, hexchanged⟩ := h "a" "ABc" (by decide)
  obtain rfl : "A_Bc" = out := by
    rw [run_toFilter, hunderscore] at hout
    cases hout
    rfl
  rw [run_toFilter, hrun, Except.ok.injEq, Json.string.injEq] at hexchanged
  exact absurd hexchanged (by decide)

end Placeholders.CamelSplit
