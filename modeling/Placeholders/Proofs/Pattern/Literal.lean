import Mathlib.Data.List.Infix
import Mathlib.Tactic.Common
import Placeholders.Pattern
import Placeholders.Proofs.Pattern.Run
import Placeholders.Proofs.Text.Replace

/-!
# Patterns that are texts

A quoted text is a pattern that matches just this text.  That takes three steps, one for each thing
that happens to a pattern.

**Reading.**  `read?_quote`: a quoted text is read as its characters in a row, whatever they are.
The reader goes on after a quoted text as if the characters had been there from the start
(`readFrom_quote`), so the same step serves for patterns that begin with a quoted text.

**Matching.**  `run_literal` says that a run through a text compares its characters and goes on
behind them.  For a text alone this gives `matchAt_literal`; `Expr.after` puts characters in front
of an expression, and `matchAt_after` says where it matches.

**Replacing.**  **`replaceAll_literal`**: replacing all matches of a quoted text is replacing the
word in one pass (`Text.replaceWords`).
-/

namespace Placeholders.Pattern

open Text

/-! ## Reading -/

/-- The terms of the characters of a text. -/
def charTerms (w : List Char) : List Term := w.map fun c => .one (.single c)

/-- The pieces that a text is read as, last first. -/
def charPieces (w : List Char) : List Piece :=
  (w.map fun c => Piece.term ⟨.one (.single c), 0⟩).reverse

lemma quote_append (v w : List Char) : quote (v ++ w) = quote v ++ quote w := List.flatMap_append

lemma readFrom_cons {r : Reading} (hr : r.flags = {}) (fuel : Nat) (c : Char) (rest : List Char) :
    readFrom (fuel + 1) r (c :: rest)
      = match step r c rest with
        | some (r, rest) => readFrom fuel r rest
        | none => none := by
  simp only [readFrom, Flags.skip, hr]
  rfl

lemma step_of_not_isMeta (r : Reading) {c : Char} (hc : isMeta c = false) (rest : List Char) :
    step r c rest = some (r.pushChar c, rest) := by
  unfold step
  split <;> first | rfl | exact absurd hc (by decide)

lemma step_backslash_of_isMeta (r : Reading) {c : Char} (hc : isMeta c = true)
    (rest : List Char) : step r '\\' (c :: rest) = some (r.pushChar c, rest) := by
  simp [step, readEscape, hc, Reading.pushAtom]

/-- Quoted or not, a character of a quoted text takes one round of the reader. -/
lemma readFrom_quote_cons {r : Reading} (hr : r.flags = {}) (fuel : Nat) (c : Char)
    (w rest : List Char) :
    readFrom (fuel + 1) r (quote (c :: w) ++ rest)
      = readFrom fuel (r.pushChar c) (quote w ++ rest) := by
  have hq : quote (c :: w) = (if isMeta c then ['\\', c] else [c]) ++ quote w := rfl
  rw [hq]
  split_ifs with hc
  · simp only [List.cons_append, List.nil_append, readFrom_cons hr, step_backslash_of_isMeta r hc]
  · simp only [List.cons_append, List.nil_append, readFrom_cons hr,
      step_of_not_isMeta r (Bool.eq_false_iff.mpr hc)]

/-- After a quoted text its characters are there as pieces. -/
lemma readFrom_quote : ∀ (w : List Char) (fuel : Nat) {r : Reading} (_ : r.flags = {})
    (rest : List Char),
    readFrom (w.length + fuel) r (quote w ++ rest)
      = readFrom fuel { r with pieces := charPieces w ++ r.pieces } rest
  | [], fuel, r, _, rest => by simp [charPieces, quote]
  | c :: w, fuel, r, hr, rest => by
      have hfuel : (c :: w).length + fuel = w.length + fuel + 1 := by
        rw [List.length_cons]; omega
      have ih := readFrom_quote w fuel (r := r.pushChar c) hr rest
      have hps : charPieces w ++ (r.pushChar c).pieces = charPieces (c :: w) ++ r.pieces := by
        simp [charPieces, Reading.pushChar, Reading.push, Flags.char, hr]
      rw [hfuel, readFrom_quote_cons hr, ih, hps]
      rfl

/-- A character takes one or two characters of a pattern. -/
lemma length_le_length_quote (w : List Char) : w.length ≤ (quote w).length := by
  induction w with
  | nil => simp
  | cons c w ih =>
      have hq : quote (c :: w) = (if isMeta c then ['\\', c] else [c]) ++ quote w := rfl
      rw [hq, List.length_append, List.length_cons]
      split_ifs <;> simp <;> omega

/-! ### The end of a pattern -/

lemma joinPieces_value (ps : List Piece) :
    (joinPieces ps).value = Term.concat (ps.reverse.map Piece.toTerm) := by
  match ps with
  | [] => rfl
  | [_] => rfl
  | _ :: _ :: _ => rfl

lemma foldl_max_depth_le {n : Nat} : ∀ (ps : List Piece) (d : Nat), d ≤ n →
    (∀ p ∈ ps, p.depth ≤ n) → ps.foldl (fun d p => max d p.depth) d ≤ n
  | [], _, hd, _ => hd
  | p :: ps, d, hd, h => by
      rw [List.foldl_cons]
      refine foldl_max_depth_le ps _ (max_le hd (h p (by simp))) fun q hq => h q (by simp [hq])

lemma joinPieces_depth_le {n : Nat} (ps : List Piece) (h : ∀ p ∈ ps, p.depth ≤ n) :
    (joinPieces ps).depth ≤ n + 1 := by
  match ps with
  | [] => exact Nat.zero_le _
  | [p] => exact Nat.le_succ_of_le (h p (by simp))
  | p :: q :: ps => exact Nat.succ_le_succ (foldl_max_depth_le _ 0 (Nat.zero_le _) h)

/-- A text that was read to its end, with no group left open, is the concatenation of its pieces. -/
lemma read?_of_readFrom {cs : List Char} {ps : List Piece} {captures : Nat}
    (h : readFrom (cs.length + 1) {} cs = some { pieces := ps, captures := captures })
    (hdepth : ∀ p ∈ ps, p.depth < maxNesting) :
    read? cs = some (Term.concat (ps.reverse.map Piece.toTerm)) := by
  have hle : (joinPieces ps).depth ≤ maxNesting :=
    joinPieces_depth_le (n := maxNesting - 1) ps fun p hp => Nat.le_pred_of_lt (hdepth p hp)
  simp only [read?, h, Reading.body, List.isEmpty_nil, true_and, if_pos hle, joinPieces_value]

lemma charPieces_terms (w : List Char) :
    (charPieces w).reverse.map Piece.toTerm = charTerms w := by
  simp [charPieces, charTerms, Piece.toTerm]

lemma depth_of_mem_charPieces {w : List Char} {p : Piece} (hp : p ∈ charPieces w) :
    p.depth = 0 := by
  simp only [charPieces, List.mem_reverse, List.mem_map] at hp
  obtain ⟨c, -, rfl⟩ := hp
  rfl

/-- **A quoted text is read as its characters in a row.** -/
theorem read?_quote (w : List Char) : read? (quote w) = some (Term.concat (charTerms w)) := by
  obtain ⟨k, hk⟩ := Nat.exists_eq_add_of_le (length_le_length_quote w)
  have h := readFrom_quote w (k + 1) (r := {}) rfl []
  rw [List.append_nil, List.append_nil, ← Nat.add_assoc, ← hk] at h
  have hread : readFrom ((quote w).length + 1) {} (quote w)
      = some { pieces := charPieces w, captures := 0 } := h.trans rfl
  rw [read?_of_readFrom hread, charPieces_terms]
  intro p hp
  rw [depth_of_mem_charPieces hp]
  decide

/-- What can be read is a pattern unless it is too large. -/
lemma compile_of_read? {source : String} {t : Term} (h : read? source.toList = some t)
    (hfits : compile source ≠ .error .tooLarge) : compile source = .ok ⟨source, .ofTerm t⟩ := by
  simp only [compile, h] at hfits ⊢
  split_ifs at hfits ⊢ with ht
  · rfl
  · exact absurd rfl hfits

lemma ne_tooLarge_of_isOk {source : String} (h : (compile source).isOk) :
    compile source ≠ .error .tooLarge := by
  intro heq
  rw [heq] at h
  cases h

/-! ## Matching -/

/-- The expression of a text. -/
def literal (w : List Char) : Expr := .ofTerm (Term.concat (charTerms w))

/-- There is no choice in a text, so it takes no labels. -/
lemma labelled_charTerms (label : Nat) : ∀ w : List Char,
    Expr.labelled (Term.concat (charTerms w)) label = (literal w, label)
  | [] => rfl
  | [_] => rfl
  | c :: d :: w => by
      have hcons : Term.concat (charTerms (c :: d :: w))
          = .cat (.one (.single c)) (Term.concat (charTerms (d :: w))) := rfl
      simp only [hcons, Expr.labelled, labelled_charTerms label (d :: w)]
      rfl

lemma run_literal_cons (c : Char) (w : List Char) (copies : Copies) (steps : List Step)
    (slots : Slots) (before : Option Char) (offset : Nat) (text : List Char) :
    run (.go (literal (c :: w)) copies :: steps) slots before offset text
      = run (.go (.one (.single c)) copies :: .go (literal w) copies :: steps) slots before offset
          text := by
  cases w with
  | nil => exact run_one_congr _ _ _ _ _ _ _ fun _ _ _ => rfl
  | cons d w => rfl

/-- A run through a text compares its characters and goes on behind them. -/
lemma run_literal (copies : Copies) (steps : List Step) (slots : Slots) :
    ∀ (w : List Char) (before : Option Char) (offset : Nat) (text : List Char),
      run (.go (literal w) copies :: steps) slots before offset text
        = if w.isPrefixOf text then
            run steps slots (w.getLast?.or before) (offset + w.length) (text.drop w.length)
          else none
  | [], before, offset, text => rfl
  | c :: w, before, offset, [] => by
      rw [run_literal_cons, run_one_nil]
      rfl
  | c :: w, before, offset, d :: text => by
      rw [run_literal_cons, run_one_cons, run_literal copies steps slots w]
      by_cases h : d = c
      · have hlast : w.getLast?.or (some d) = (c :: w).getLast?.or before := by
          rw [List.getLast?_cons, h]
          cases w.getLast? <;> rfl
        rw [hlast]
        simp [CharSet.contains, h, Nat.add_assoc, Nat.add_comm 1]
      · simp [CharSet.contains, h, Ne.symm h]

/-- **A text matches where it begins, and nowhere else.** -/
theorem matchAt_literal (w : List Char) (before : Option Char) (text : List Char) :
    matchAt (literal w) before text
      = if w.isPrefixOf text then some ⟨w.length, []⟩ else none := by
  rw [matchAt_eq_run, run_literal, run_done, Nat.zero_add]

/-! ### Something behind a text -/

/-- A term with characters in front of it. -/
def Term.after (w : List Char) (t : Term) : Term := w.foldr (fun c t => .cat (.one (.single c)) t) t

/-- An expression with characters in front of it. -/
def Expr.after (w : List Char) (e : Expr) : Expr := w.foldr (fun c e => .cat (.one (.single c)) e) e

lemma concat_charTerms_append (w : List Char) {ts : List Term} (hts : ts ≠ []) :
    Term.concat (charTerms w ++ ts) = Term.after w (Term.concat ts) := by
  induction w with
  | nil => rfl
  | cons c w ih =>
      rw [Term.after, List.foldr_cons, ← Term.after, ← ih]
      obtain ⟨t, rest, hcons⟩ := List.exists_cons_of_ne_nil
        (List.append_ne_nil_of_right_ne_nil (charTerms w) hts)
      rw [charTerms, List.map_cons, List.cons_append, ← charTerms, hcons]
      rfl

lemma labelled_after (w : List Char) (t : Term) (label : Nat) :
    Expr.labelled (Term.after w t) label
      = (Expr.after w (Expr.labelled t label).1, (Expr.labelled t label).2) := by
  induction w with
  | nil => rfl
  | cons c w ih =>
      simp only [Term.after, Expr.after, List.foldr_cons] at ih ⊢
      simp only [Expr.labelled, ih]

lemma ofTerm_after (w : List Char) (t : Term) :
    Expr.ofTerm (Term.after w t) = Expr.after w (Expr.ofTerm t) := by
  rw [Expr.ofTerm, labelled_after, Expr.ofTerm]

/-- A run through characters and an expression is one through the characters, with the expression
left to do. -/
lemma run_after (w : List Char) (e : Expr) (copies : Copies) (steps : List Step) (slots : Slots)
    (before : Option Char) (offset : Nat) (text : List Char) :
    run (.go (Expr.after w e) copies :: steps) slots before offset text
      = run (.go (literal w) copies :: .go e copies :: steps) slots before offset text := by
  induction w generalizing before offset text with
  | nil => rfl
  | cons c w ih =>
      rw [Expr.after, List.foldr_cons, ← Expr.after, run_cat, run_literal_cons]
      exact run_one_congr _ _ _ _ _ _ _ ih

lemma matchAt_after (w : List Char) (e : Expr) (before : Option Char) (text : List Char) :
    matchAt (Expr.after w e) before text
      = if w.isPrefixOf text then
          run [.go e []] [] (w.getLast?.or before) w.length (text.drop w.length)
        else none := by
  rw [matchAt_eq_run, run_after, run_literal, Nat.zero_add]

/-! ## Replacing -/

lemma splice_literal {w : List Char} (hw : w ≠ []) (new : List Char) :
    ∀ (text : List Char) (skip : Nat) (ended : Bool) (before : Option Char),
      splice (literal w) (fun _ => new) skip ended before text
        = replaceWordsAfter [(w, new)] skip text
  | [], skip, ended, before => by
      have h : matchAt (literal w) before [] = none := by
        rw [matchAt_literal, if_neg]
        simpa [List.isPrefixOf_iff_prefix] using hw
      simp [splice, replaceWordsAfter, h]
  | c :: text, skip + 1, ended, before => by
      rw [splice, replaceWordsAfter]
      exact splice_literal hw new text skip _ _
  | c :: text, 0, ended, before => by
      obtain ⟨a, w', rfl⟩ := List.exists_cons_of_ne_nil hw
      rw [splice, replaceWordsAfter, matchAt_literal]
      by_cases h : (a :: w').isPrefixOf (c :: text)
      · simp only [h, if_true, List.find?_cons, List.length_cons]
        rw [splice_literal hw new text w'.length, Nat.add_sub_cancel]
      · simp only [h, if_false, List.find?_cons, List.find?_nil, Bool.false_eq_true]
        rw [splice_literal hw new text 0]

/-- **Replacing all matches of a text is replacing the word in one pass.** -/
theorem replaceAll_literal {w : List Char} (hw : w ≠ []) (source new text : String) :
    (Pattern.mk source (literal w)).replaceAll (fun _ => new.toList) text
      = String.ofList (replaceWords [(w, new.toList)] text.toList) := by
  rw [replaceAll, splice_literal hw, replaceWords]

end Placeholders.Pattern
