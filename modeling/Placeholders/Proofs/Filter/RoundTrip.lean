import Mathlib.Data.List.Basic
import Mathlib.Tactic.Common
import Placeholders.Filter.Case
import Placeholders.Proofs.Filter.Joining
import Placeholders.Proofs.Filter.Splitting
import Placeholders.Proofs.Template.Scan

/-!
# Names made of words

Ordinary names are made of words, each a letter with small letters and digits behind it.  In camel
case every word has a capital letter and the words stand side by side; otherwise they are small and
a separator stands between them.  The filters take one form to the other, word by word, so three
inductions over the words are all there is.

* `IsWord` — a word; `camelName`, `separatedName` — the two forms of a name; `IsPlain` — separators
  that words are not mistaken for.
* `split_camelName` — splitting puts the separator between the words, since a capital letter is only
  at their start.
* `lowercase_separatedName` — `capitalize` and `lowered` are inverse to each other on words
  (`isWord_capitalize`, `isWord_lowered`).
* `join_separatedName` — joining takes the separators out again.  Only behind a separator it looks
  for a letter, and no separator begins inside a word.
* **`runAll_names`** — with underscores and with dashes, both ways round give back the name.
-/

namespace Placeholders.Words

open Text CamelSplit CamelJoin

variable {separator : List Char} {words : List (List Char)} {w : List Char}

/-! ## Words -/

/-- A word with a first character of some kind, and small letters and digits behind it, one at
least. -/
def IsWord (first : Char → Bool) : List Char → Prop
  | [] => False
  | c :: rest => first c ∧ rest ≠ [] ∧ ∀ d ∈ rest, d.isLower ∨ d.isDigit

instance (first : Char → Bool) : DecidablePred (IsWord first)
  | [] => inferInstanceAs (Decidable False)
  | c :: rest =>
    have : Decidable (∀ d ∈ rest, d.isLower ∨ d.isDigit) := List.decidableBAll _ rest
    inferInstanceAs (Decidable (first c ∧ rest ≠ [] ∧ ∀ d ∈ rest, d.isLower ∨ d.isDigit))

/-- A word with a capital letter in front. -/
def capitalize : List Char → List Char
  | [] => []
  | c :: rest => c.toUpper :: rest

/-- A word in small letters. -/
def lowered (w : List Char) : List Char := w.map Char.toLower

/-- The name in camel case with some words. -/
def camelName (words : List (List Char)) : String := String.ofList words.flatten

/-- The name with some words and a separator between them. -/
def separatedName (separator : String) (words : List (List Char)) : String :=
  String.ofList (separator.toList.intercalate words)

/-- Words are separated by putting the separator in front of each but the first. -/
lemma intercalate_cons (separator w : List Char) (words : List (List Char)) :
    separator.intercalate (w :: words) = w ++ words.flatMap fun v => separator ++ v := by
  induction words generalizing w with
  | nil => simp
  | cons v words ih =>
      rw [List.intercalate_cons_cons, ih v, List.flatMap_cons, List.append_assoc, List.append_assoc]

/-! ## Characters -/

lemma ascii_of_isLower {c : Char} (h : c.isLower) : c.toNat < 128 := by
  obtain ⟨-, hle⟩ := Bool.and_eq_true_iff.mp h
  exact Nat.lt_of_le_of_lt (of_decide_eq_true hle) (by decide)

lemma ascii_of_isUpper {c : Char} (h : c.isUpper) : c.toNat < 128 := by
  obtain ⟨-, hle⟩ := of_decide_eq_true h
  exact Nat.lt_of_le_of_lt hle (by decide)

lemma of_isLower {c : Char} (h : c.isLower) : Category.of c = .ll :=
  Template.forall_ascii (P := fun c => c.isLower → Category.of c = .ll) (by decide)
    (ascii_of_isLower h) h

lemma of_isDigit {c : Char} (h : c.isDigit) : Category.of c = .nd :=
  Template.forall_ascii (P := fun c => c.isDigit → Category.of c = .nd) (by decide)
    (Template.ascii_of_isDigit h) h

lemma of_isUpper {c : Char} (h : c.isUpper) : Category.of c = .lu :=
  Template.forall_ascii (P := fun c => c.isUpper → Category.of c = .lu) (by decide)
    (ascii_of_isUpper h) h

lemma upperChar_of_isLower {c : Char} (h : c.isLower) : Case.upperChar c = [c.toUpper] :=
  if_pos (ascii_of_isLower h)

/-- Only capital letters have another small form. -/
lemma toLower_of_ascii {c : Char} (hascii : c.toNat < 128) (hc : Category.of c ≠ .lu) :
    c.toLower = c :=
  Template.forall_ascii (P := fun c => Category.of c ≠ .lu → c.toLower = c) (by decide) hascii hc

/-! ### The two forms of a word -/

lemma lowered_of_ascii (hw : ∀ c ∈ w, c.toNat < 128 ∧ Category.of c ≠ .lu) : lowered w = w :=
  (List.map_congr_left fun c hc => toLower_of_ascii (hw c hc).1 (hw c hc).2).trans (List.map_id w)

lemma lowered_of_small (hw : ∀ d ∈ w, d.isLower ∨ d.isDigit) : lowered w = w := by
  refine lowered_of_ascii fun d hd => ?_
  rcases hw d hd with h | h
  · exact ⟨ascii_of_isLower h, by rw [of_isLower h]; decide⟩
  · exact ⟨Template.ascii_of_isDigit h, by rw [of_isDigit h]; decide⟩

lemma isWord_capitalize (hw : IsWord Char.isLower w) :
    IsWord Char.isUpper (capitalize w) ∧ lowered (capitalize w) = w := by
  cases w with
  | nil => exact hw.elim
  | cons c rest =>
      obtain ⟨hc, hne, hrest⟩ := hw
      obtain ⟨hupper, hback⟩ := Template.forall_ascii
        (P := fun c => c.isLower → c.toUpper.isUpper ∧ c.toUpper.toLower = c) (by decide)
        (ascii_of_isLower hc) hc
      refine ⟨⟨hupper, hne, hrest⟩, ?_⟩
      have hcons : lowered (capitalize (c :: rest)) = c.toUpper.toLower :: lowered rest := rfl
      rw [hcons, hback, lowered_of_small hrest]

lemma isWord_lowered (hw : IsWord Char.isUpper w) :
    IsWord Char.isLower (lowered w) ∧ capitalize (lowered w) = w := by
  cases w with
  | nil => exact hw.elim
  | cons c rest =>
      obtain ⟨hc, hne, hrest⟩ := hw
      obtain ⟨hlower, hback⟩ := Template.forall_ascii
        (P := fun c => c.isUpper → c.toLower.isLower ∧ c.toLower.toUpper = c) (by decide)
        (ascii_of_isUpper hc) hc
      have hcons : lowered (c :: rest) = c.toLower :: lowered rest := rfl
      rw [hcons, lowered_of_small hrest]
      exact ⟨⟨hlower, hne, hrest⟩, by rw [capitalize, hback]⟩

/-- What takes each word to another form and back does so with several words. -/
lemma map_words {p q : List Char → Prop} {f g : List Char → List Char}
    (h : ∀ w, p w → q (f w) ∧ g (f w) = w) (hwords : ∀ w ∈ words, p w) :
    (∀ w ∈ words.map f, q w) ∧ (words.map f).map g = words := by
  rw [List.forall_mem_map, List.map_map]
  refine ⟨fun w hw => (h w (hwords w hw)).1, ?_⟩
  exact (List.map_congr_left fun w hw => (h w (hwords w hw)).2).trans (List.map_id words)

/-! ### Separators -/

/-- What is asked of a separator: words are not mistaken for it, and small letters do not change
it. -/
structure IsPlain (separator : List Char) : Prop where
  ne_nil : separator ≠ []
  neutral : IsNeutral separator
  ascii : ∀ c ∈ separator, c.toNat < 128

lemma IsPlain.lowered_eq (h : IsPlain separator) : lowered separator = separator :=
  lowered_of_ascii fun c hc => ⟨h.ascii c hc, fun hcapital => h.neutral c hc (by simp [hcapital])⟩

lemma isPlain_singleton {x : Char} (hneutral : Category.of x ∉ [Category.lu, .ll, .nd])
    (hascii : x.toNat < 128) : IsPlain [x] :=
  ⟨List.cons_ne_nil x [], List.forall_mem_singleton.mpr hneutral,
    List.forall_mem_singleton.mpr hascii⟩

/-! ## Splitting -/

lemma isAt_of_small {d : Char} (hd : d.isLower ∨ d.isDigit) (u : List Char) :
    IsAt .ll (d :: u) 0 ∨ IsAt .nd (d :: u) 0 := by
  rw [isAt_zero, isAt_zero]
  exact hd.imp of_isLower of_isDigit

lemma not_isAt_of_small {d : Char} (hd : d.isLower ∨ d.isDigit) (u : List Char) :
    ¬ IsAt .lu (d :: u) 0 := by
  intro h
  rcases isAt_of_small hd u with h' | h' <;> cases h.unique h'

/-- Behind a small letter or digit, each capital letter begins a word. -/
lemma isBoundary_cons_iff {d : Char} (hd : d.isLower ∨ d.isDigit) (u : List Char) :
    IsBoundary (d :: u) 0 ↔ IsAt .lu u 0 := by
  have hrun : ¬ RunEnds (d :: u) 0 := fun h => not_isAt_of_small hd u h.1
  exact (or_iff_right hrun).trans (and_iff_right (isAt_of_small hd u))

/-- Small letters and digits are kept, and the separator follows if a capital letter is next. -/
lemma insertAt_append_of_small (hne : w ≠ []) (hw : ∀ d ∈ w, d.isLower ∨ d.isDigit)
    (text : List Char) :
    insertAt IsBoundary separator (w ++ text)
      = w ++ ((if IsAt .lu text 0 then separator else [])
        ++ insertAt IsBoundary separator text) := by
  induction w with
  | nil => exact absurd rfl hne
  | cons d w ih =>
      rw [List.forall_mem_cons] at hw
      rw [List.cons_append, insertAt_cons looksAhead_isBoundary]
      simp only [isBoundary_cons_iff hw.1]
      -- only behind the last of these characters a capital letter can be next
      cases w with
      | nil => rfl
      | cons e w =>
          have he : ¬ IsAt .lu (e :: (w ++ text)) 0 := not_isAt_of_small (hw.2 e (by simp)) _
          rw [ih (List.cons_ne_nil e w) hw.2, List.cons_append, if_neg he]
          rfl

lemma insertAt_append_of_isWord (hw : IsWord Char.isUpper w) (text : List Char) :
    insertAt IsBoundary separator (w ++ text)
      = w ++ ((if IsAt .lu text 0 then separator else [])
        ++ insertAt IsBoundary separator text) := by
  cases w with
  | nil => exact hw.elim
  | cons c rest =>
      obtain ⟨hc, hne, hrest⟩ := hw
      have hboundary : ¬ IsBoundary (c :: (rest ++ text)) 0 := by
        intro h
        obtain ⟨d, more, rfl⟩ := List.exists_cons_of_ne_nil hne
        exact not_isAt_of_small (hrest d (by simp)) _ h.isAt
      rw [List.cons_append, insertAt_cons_of_not_place looksAhead_isBoundary hboundary,
        insertAt_append_of_small hne hrest]
      rfl

lemma isAt_of_isWord (hw : IsWord Char.isUpper w) (text : List Char) : IsAt .lu (w ++ text) 0 := by
  cases w with
  | nil => exact hw.elim
  | cons c rest => exact (isAt_zero _ _ _).mpr (of_isUpper hw.1)

/-- The separator comes in front of each further word. -/
lemma insertAt_flatten (hwords : ∀ w ∈ words, IsWord Char.isUpper w) :
    (if IsAt .lu words.flatten 0 then separator else [])
        ++ insertAt IsBoundary separator words.flatten
      = words.flatMap fun w => separator ++ w := by
  induction words with
  | nil => rfl
  | cons w words ih =>
      rw [List.forall_mem_cons] at hwords
      rw [List.flatten_cons, if_pos (isAt_of_isWord hwords.1 _),
        insertAt_append_of_isWord hwords.1, ih hwords.2, List.flatMap_cons, List.append_assoc]

/-- In a name in camel case the boundaries are between the words. -/
lemma insertAt_flatten_cons (hwords : ∀ v ∈ w :: words, IsWord Char.isUpper v) :
    insertAt IsBoundary separator (w :: words).flatten = separator.intercalate (w :: words) := by
  rw [List.forall_mem_cons] at hwords
  rw [List.flatten_cons, insertAt_append_of_isWord hwords.1, insertAt_flatten hwords.2,
    intercalate_cons]

/-! ## Small letters -/

/-- An ASCII text changes character by character. -/
lemma lowerAfter_append_of_ascii (hw : ∀ c ∈ w, c.toNat < 128) (before text : List Char) :
    Case.lowerAfter before (w ++ text)
      = lowered w ++ Case.lowerAfter (w.reverse ++ before) text := by
  induction w generalizing before with
  | nil => rfl
  | cons c w ih =>
      rw [List.forall_mem_cons] at hw
      have hsigma : c ≠ 'Σ' := fun hc => absurd (hc ▸ hw.1) (by decide)
      rw [List.cons_append, Case.lowerAfter, if_neg hsigma, Case.lowerChar, if_pos hw.1, ih hw.2,
        List.reverse_cons, List.append_assoc]
      rfl

lemma IsWord.ascii {first : Char → Bool} (hfirst : ∀ c, first c → c.toNat < 128)
    (hw : IsWord first w) : ∀ c ∈ w, c.toNat < 128 := by
  cases w with
  | nil => exact hw.elim
  | cons c rest =>
      obtain ⟨hc, -, hrest⟩ := hw
      refine List.forall_mem_cons.mpr ⟨hfirst c hc, fun d hd => ?_⟩
      exact (hrest d hd).elim ascii_of_isLower Template.ascii_of_isDigit

lemma lowerAfter_flatMap (hplain : IsPlain separator)
    (hwords : ∀ w ∈ words, IsWord Char.isUpper w) (before : List Char) :
    Case.lowerAfter before (words.flatMap fun w => separator ++ w)
      = (words.map lowered).flatMap fun w => separator ++ w := by
  induction words generalizing before with
  | nil => rfl
  | cons w words ih =>
      rw [List.forall_mem_cons] at hwords
      rw [List.flatMap_cons, List.append_assoc, lowerAfter_append_of_ascii hplain.ascii,
        hplain.lowered_eq, lowerAfter_append_of_ascii (hwords.1.ascii fun _ => ascii_of_isUpper),
        ih hwords.2, List.map_cons, List.flatMap_cons, List.append_assoc]

/-- The words of a name are put in small letters one by one. -/
lemma lowerAfter_intercalate_cons (hplain : IsPlain separator)
    (hwords : ∀ v ∈ w :: words, IsWord Char.isUpper v) :
    Case.lowerAfter [] (separator.intercalate (w :: words))
      = separator.intercalate ((w :: words).map lowered) := by
  rw [List.forall_mem_cons] at hwords
  rw [intercalate_cons, lowerAfter_append_of_ascii (hwords.1.ascii fun _ => ascii_of_isUpper),
    lowerAfter_flatMap hplain hwords.2, List.map_cons, intercalate_cons]

/-! ## Joining -/

/-- Small letters and digits are kept, since no separator begins with one. -/
lemma joinAfter_append_of_small (hplain : IsPlain separator)
    (hw : ∀ d ∈ w, d.isLower ∨ d.isDigit) (text : List Char) :
    joinAfter separator 0 (w ++ text) = w ++ joinAfter separator 0 text := by
  obtain ⟨x, more, rfl⟩ := List.exists_cons_of_ne_nil hplain.ne_nil
  refine joinAfter_append_of_none fun i hi => ?_
  have hx : x ≠ w[i] := by
    rintro rfl
    refine hplain.neutral w[i] (by simp) ?_
    rcases hw w[i] (List.getElem_mem hi) with h | h
    · simp [of_isLower h]
    · simp [of_isDigit h]
  have hdrop : (w ++ text).drop i = w[i] :: (w.drop (i + 1) ++ text) := by
    rw [List.drop_append_of_le_length hi.le, List.drop_eq_getElem_cons hi, List.cons_append]
  rw [hdrop]
  simp [letterBehind?, hx]

/-- A separator goes, and the word behind it is capitalised. -/
lemma joinAfter_separator_append (hplain : IsPlain separator)
    (hw : IsWord Char.isLower w) (text : List Char) :
    joinAfter separator 0 (separator ++ (w ++ text))
      = capitalize w ++ joinAfter separator 0 text := by
  cases w with
  | nil => exact hw.elim
  | cons c rest =>
      obtain ⟨hc, -, hrest⟩ := hw
      rw [List.cons_append, joinAfter_separator separator (of_isLower hc), upperChar_of_isLower hc,
        joinAfter_append_of_small hplain hrest]
      rfl

lemma joinAfter_flatMap (hplain : IsPlain separator)
    (hwords : ∀ w ∈ words, IsWord Char.isLower w) :
    joinAfter separator 0 (words.flatMap fun w => separator ++ w)
      = (words.map capitalize).flatten := by
  induction words with
  | nil => rfl
  | cons w words ih =>
      rw [List.forall_mem_cons] at hwords
      rw [List.flatMap_cons, List.append_assoc, joinAfter_separator_append hplain hwords.1,
        ih hwords.2, List.map_cons, List.flatten_cons]

/-- The words of a name are joined in camel case. -/
lemma join_intercalate_cons (hplain : IsPlain separator)
    (hwords : ∀ v ∈ w :: words, IsWord Char.isLower v) :
    join separator (separator.intercalate (w :: words))
      = ((w :: words).map capitalize).flatten := by
  have hjoin (text : List Char) :
      join separator (w ++ text) = joinAfter separator 0 (separator ++ (w ++ text)) := by
    cases w with
    | nil => exact (hwords [] (by simp)).elim
    | cons c rest =>
        have hw : IsWord Char.isLower (c :: rest) := hwords _ (by simp)
        exact join_eq_joinAfter separator (of_isLower hw.1) _
  rw [← joinAfter_flatMap hplain hwords, intercalate_cons, hjoin, List.flatMap_cons,
    List.append_assoc]

/-! ## The filters -/

lemma split_camelName {c : CamelSplit} (hplain : IsPlain c.separator.toList)
    (hwords : ∀ w ∈ words, IsWord Char.isUpper w) :
    c.toFilter.run (.string (camelName words))
      = .ok (.string (separatedName c.separator words)) := by
  rw [CamelSplit.run_toFilter, apply_of_isNeutral hplain.neutral, camelName, String.toList_ofList]
  cases words with
  | nil => rfl
  | cons w words => rw [insertAt_flatten_cons hwords]; rfl

lemma lowercase_separatedName {separator : String} (hplain : IsPlain separator.toList)
    (hwords : ∀ w ∈ words, IsWord Char.isUpper w) :
    Filter.lowercase.run (.string (separatedName separator words))
      = .ok (.string (separatedName separator (words.map lowered))) := by
  have hrun (text : String) :
      Filter.lowercase.run (.string text) = .ok (.string (Case.lower text)) := rfl
  rw [hrun, Case.lower, separatedName, String.toList_ofList]
  cases words with
  | nil => rfl
  | cons w words => rw [lowerAfter_intercalate_cons hplain hwords]; rfl

lemma join_separatedName {c : CamelJoin} (hplain : IsPlain c.separator.toList)
    (hfits : Pattern.compile (wordStart c.separator) ≠ .error .tooLarge)
    (hwords : ∀ w ∈ words, IsWord Char.isLower w) :
    c.toFilter.run (.string (separatedName c.separator words))
      = .ok (.string (camelName (words.map capitalize))) := by
  rw [CamelJoin.run_toFilter (apply_eq_join hfits _), separatedName, String.toList_ofList]
  cases words with
  | nil => rfl
  | cons w words => rw [join_intercalate_cons hplain hwords]; rfl

/-! ### Chains -/

lemma runAll_cons {f : Filter} {chain : List Filter} {a b : Json} (h : f.run a = .ok b) :
    Filter.runAll (f :: chain) a = Filter.runAll chain b := by
  rw [Filter.runAll, List.foldlM_cons, h]
  rfl

section

variable {split : CamelSplit} {join : CamelJoin} (hsame : join.separator = split.separator)
  (hplain : IsPlain split.separator.toList)
  (hfits : Pattern.compile (wordStart join.separator) ≠ .error .tooLarge)

include hsame hplain hfits

lemma runAll_camelName (hwords : ∀ w ∈ words, IsWord Char.isUpper w) :
    Filter.runAll [split.toFilter, Filter.lowercase, join.toFilter] (.string (camelName words))
      = .ok (.string (camelName words)) := by
  obtain ⟨hlowered, hback⟩ := map_words (fun _ => isWord_lowered) hwords
  have hjoin := join_separatedName (hsame ▸ hplain) hfits hlowered
  rw [hback, hsame] at hjoin
  rw [runAll_cons (split_camelName hplain hwords),
    runAll_cons (lowercase_separatedName hplain hwords), runAll_cons hjoin]
  rfl

lemma runAll_separatedName (hwords : ∀ w ∈ words, IsWord Char.isLower w) :
    Filter.runAll [join.toFilter, split.toFilter, Filter.lowercase]
        (.string (separatedName split.separator words))
      = .ok (.string (separatedName split.separator words)) := by
  obtain ⟨hcapitalized, hback⟩ := map_words (fun _ => isWord_capitalize) hwords
  have hjoin := join_separatedName (hsame ▸ hplain) hfits hwords
  have hlower := lowercase_separatedName hplain hcapitalized
  rw [hsame] at hjoin
  rw [hback] at hlower
  rw [runAll_cons hjoin, runAll_cons (split_camelName hplain hcapitalized), runAll_cons hlower]
  rfl

end

lemma isPlain_of_mem {c : CamelSplit} (hc : c ∈ [CamelSplit.underscore, CamelSplit.dash]) :
    IsPlain c.separator.toList := by
  simp only [List.mem_cons, List.not_mem_nil, or_false] at hc
  rcases hc with rfl | rfl
  · exact isPlain_singleton (x := '_') (by decide) (by decide)
  · exact isPlain_singleton (x := '-') (by decide) (by decide)

lemma compile_isOk_of_mem : ∀ c ∈ [CamelJoin.underscore, CamelJoin.dash],
    (Pattern.compile (wordStart c.separator)).isOk := by decide +kernel

/-- **Splitting and joining undo each other on ordinary names**, with lowercase in between. -/
theorem runAll_names (split : CamelSplit) (join : CamelJoin)
    (hpair : (split, join) ∈
      [(CamelSplit.underscore, CamelJoin.underscore), (CamelSplit.dash, CamelJoin.dash)])
    (words : List (List Char)) :
    ((∀ w ∈ words, IsWord Char.isUpper w) →
      Filter.runAll [split.toFilter, Filter.lowercase, join.toFilter] (.string (camelName words))
        = .ok (.string (camelName words)))
    ∧ ((∀ w ∈ words, IsWord Char.isLower w) →
      Filter.runAll [join.toFilter, split.toFilter, Filter.lowercase]
          (.string (separatedName split.separator words))
        = .ok (.string (separatedName split.separator words))) := by
  simp only [List.mem_cons, Prod.mk.injEq, List.not_mem_nil, or_false] at hpair
  rcases hpair with ⟨rfl, rfl⟩ | ⟨rfl, rfl⟩
  · have hplain : IsPlain CamelSplit.underscore.separator.toList := isPlain_of_mem (by simp)
    have hfits := Pattern.ne_tooLarge_of_isOk (compile_isOk_of_mem CamelJoin.underscore (by simp))
    exact ⟨runAll_camelName rfl hplain hfits, runAll_separatedName rfl hplain hfits⟩
  · have hplain : IsPlain CamelSplit.dash.separator.toList := isPlain_of_mem (by simp)
    have hfits := Pattern.ne_tooLarge_of_isOk (compile_isOk_of_mem CamelJoin.dash (by simp))
    exact ⟨runAll_camelName rfl hplain hfits, runAll_separatedName rfl hplain hfits⟩

/-- Digits may end a word or stand inside of it. -/
theorem runAll_names_digits :
    (∀ w ∈ ["Http2".toList, "Go1x".toList], IsWord Char.isUpper w)
      ∧ (∀ w ∈ ["http2".toList, "go1x".toList], IsWord Char.isLower w)
      ∧ Filter.runAll
          [CamelSplit.underscore.toFilter, Filter.lowercase, CamelJoin.underscore.toFilter]
          (.string "Http2Go1x") = .ok (.string "Http2Go1x")
      ∧ Filter.runAll [CamelJoin.dash.toFilter, CamelSplit.dash.toFilter, Filter.lowercase]
          (.string "http2-go1x") = .ok (.string "http2-go1x") := by
  have hupper : ∀ w ∈ ["Http2".toList, "Go1x".toList], IsWord Char.isUpper w := by decide
  have hlower : ∀ w ∈ ["http2".toList, "go1x".toList], IsWord Char.isLower w := by decide
  have hcamel := (runAll_names CamelSplit.underscore CamelJoin.underscore (by simp)
    ["Http2".toList, "Go1x".toList]).1 hupper
  have hseparated := (runAll_names CamelSplit.dash CamelJoin.dash (by simp)
    ["http2".toList, "go1x".toList]).2 hlower
  exact ⟨hupper, hlower, hcamel, hseparated⟩

end Placeholders.Words
