import Placeholders.Filter.CamelCase
import Placeholders.Proofs.Pattern.Literal

/-!
# Joining words

Joining is a pattern with a choice in it: a small letter is capitalised at the start of the text or
behind a separator.  What this comes to is a single scan that compares characters.

* `join` — the scan; `joinAfter` is what it does behind the first character.  It can take two steps:
  `joinAfter_append_of_none` keeps characters, and `joinAfter_separator` drops a separator.
* `read?_wordStart` — the pattern can be read, whatever the separator is; `ofTerm_startTerm` is its
  expression.
* `matchAt_startExpr_some`, `matchAt_startExpr_none` — where it matches.  Only at the start of the
  text there are two ways, and the one without a separator is tried first.
* **`run_toFilter_eq_join`** — the filter is the scan.
-/

namespace Placeholders.CamelJoin

open Pattern

/-! ## The scan -/

/-- The small letter at the start of a text. -/
def letter? : List Char → Option Char
  | [] => none
  | c :: _ => if Category.of c = .ll then some c else none

/-- The small letter behind a separator at the start of a text. -/
def letterBehind? (separator text : List Char) : Option Char :=
  if separator.isPrefixOf text then letter? (text.drop separator.length) else none

/-- Goes over a text of which the first `skip` characters belong to a word start already joined.
Where a separator comes with a small letter behind it, only the letter is left, capitalised; every
other character stays. -/
def joinAfter (separator : List Char) : (skip : Nat) → List Char → List Char
  | _, [] => []
  | skip + 1, _ :: rest => joinAfter separator skip rest
  | 0, c :: rest =>
    match letterBehind? separator (c :: rest) with
    | some a => Case.upperChar a ++ joinAfter separator separator.length rest
    | none => c :: joinAfter separator 0 rest

/-- Joins a text: right at its start a small letter is capitalised without a separator. -/
def join (separator text : List Char) : List Char :=
  match letter? text with
  | some a => Case.upperChar a ++ joinAfter separator 0 text.tail
  | none => joinAfter separator 0 text

/-- What was joined already is passed over. -/
lemma joinAfter_append (separator w rest : List Char) :
    joinAfter separator w.length (w ++ rest) = joinAfter separator 0 rest := by
  induction w with
  | nil => rfl
  | cons c w ih => exact ih

/-- A separator goes, and the letter behind it is capitalised. -/
lemma joinAfter_separator (separator : List Char) {a : Char} (ha : Category.of a = .ll)
    (rest : List Char) :
    joinAfter separator 0 (separator ++ a :: rest)
      = Case.upperChar a ++ joinAfter separator 0 rest := by
  have hletter : letterBehind? separator (separator ++ a :: rest) = some a := by
    simp [letterBehind?, letter?, ha]
  cases separator with
  | nil =>
      rw [List.nil_append] at hletter ⊢
      simp only [joinAfter, hletter, List.length_nil]
  | cons c w =>
      have hskip := joinAfter_append (c :: w) (w ++ [a]) rest
      rw [List.append_assoc, List.length_append, List.singleton_append] at hskip
      rw [List.cons_append] at hletter ⊢
      simp only [joinAfter, hletter]
      exact congrArg _ hskip

/-- The start of a text is like the end of a separator. -/
lemma join_eq_joinAfter (separator : List Char) {a : Char} (ha : Category.of a = .ll)
    (rest : List Char) :
    join separator (a :: rest) = joinAfter separator 0 (separator ++ a :: rest) := by
  rw [joinAfter_separator separator ha, join, letter?, if_pos ha, List.tail_cons]

/-- Where no separator begins with a letter behind it, characters are kept. -/
lemma joinAfter_append_of_none {separator u v : List Char}
    (h : ∀ i < u.length, letterBehind? separator ((u ++ v).drop i) = none) :
    joinAfter separator 0 (u ++ v) = u ++ joinAfter separator 0 v := by
  induction u with
  | nil => rfl
  | cons c u ih =>
      have hc : letterBehind? separator (c :: (u ++ v)) = none := h 0 (Nat.succ_pos u.length)
      rw [List.cons_append, joinAfter]
      simp only [hc]
      rw [ih fun i hi => h (i + 1) (Nat.succ_lt_succ hi), List.cons_append]

/-! ## The pattern -/

/-- The set of small letters. -/
def smallLetters : CharSet := .category [.ll]

/-- The term of a word start. -/
def startTerm (separator : List Char) : Term :=
  .cat (.bracket (.alt (.look .start) (Term.concat (charTerms separator))))
    (.group 1 (.one smallLetters))

/-- The expression of a word start. -/
def startExpr (separator : List Char) : Expr :=
  .cat (.alt 0 (.look .start) (literal separator)) (.group 1 (.one smallLetters))

lemma toList_wordStart (separator : String) :
    (wordStart separator).toList
      = "(?:^|".toList ++ (quote separator.toList ++ ")(\\p\x7bLl\x7d)".toList) := by
  simp only [wordStart, String.toList_append, String.toList_ofList, List.append_assoc]

/-- What was read in front of the separator: a group is open, and the start of the text is its first
branch. -/
def opened : Reading where
  branches := [⟨.look .start, 0⟩]
  outer := [⟨[], [], {}, none⟩]

lemma readFrom_opening (fuel : Nat) (rest : List Char) :
    readFrom (fuel + 3) {} ("(?:^|".toList ++ rest) = readFrom fuel opened rest := rfl

/-- Behind the separator this group is closed, and the group of the letter follows. -/
lemma readFrom_closing (fuel : Nat) (ps : List Piece) :
    readFrom (fuel + 5) { opened with pieces := ps } ")(\\p\x7bLl\x7d)".toList
      = some
        { pieces :=
            [.term ⟨.group 1 (.one smallLetters), 1⟩,
              .term ⟨.bracket (.alt (.look .start) (joinPieces ps).value),
                max (max 0 0) (joinPieces ps).depth + 1 + 1⟩]
          captures := 1 } := rfl

/-- **The pattern of a word start can be read**, whatever the separator is. -/
theorem read?_wordStart (separator : String) :
    read? (wordStart separator).toList = some (startTerm separator.toList) := by
  set w := separator.toList with hw
  obtain ⟨k, hk⟩ := Nat.exists_eq_add_of_le (length_le_length_quote w)
  have hlen : (wordStart separator).toList.length + 1 = w.length + (k + 7 + 5) + 3 := by
    rw [toList_wordStart, List.length_append, List.length_append, ← hw, hk]
    simp
    omega
  have hpieces : charPieces w ++ opened.pieces = charPieces w := List.append_nil _
  have hread := readFrom_opening (w.length + (k + 7 + 5)) (quote w ++ ")(\\p\x7bLl\x7d)".toList)
  rw [readFrom_quote w _ rfl, hpieces, readFrom_closing, ← hlen, hw, ← toList_wordStart] at hread
  have hdepth : (joinPieces (charPieces w)).depth ≤ 1 :=
    joinPieces_depth_le (n := 0) _ fun p hp => (depth_of_mem_charPieces hp).le
  rw [read?_of_readFrom hread]
  · have hterm : (joinPieces (charPieces w)).value = Term.concat (charTerms w) := by
      rw [joinPieces_value, charPieces_terms]
    rw [← hw, hterm]
    rfl
  · have hmax : max (max 0 0) (joinPieces (charPieces w)).depth + 1 + 1 < maxNesting := by
      rw [max_self, max_eq_right (Nat.zero_le _)]
      exact Nat.lt_of_le_of_lt (Nat.add_le_add_right hdepth 2) (by decide)
    simp only [List.forall_mem_cons, Piece.depth]
    exact ⟨by decide, hmax, by simp⟩

/-! ## Where it matches -/

lemma ofTerm_startTerm (separator : List Char) :
    Expr.ofTerm (startTerm separator) = startExpr separator := by
  rw [startTerm, startExpr, Expr.ofTerm]
  simp only [Expr.labelled, labelled_charTerms]

/-- The match of a word start with `n` characters in front of the letter. -/
def startFound (n : Nat) : Found := ⟨n + 1, [(3, n + 1), (2, n)]⟩

lemma run_letter (before : Option Char) (offset : Nat) (text : List Char) :
    run [.go (.group 1 (.one smallLetters)) []] [] before offset text
      = (letter? text).map fun _ => startFound offset := by
  rw [run_group]
  cases text with
  | nil => rw [run_one_nil]; rfl
  | cons c rest =>
      rw [run_one_cons, run_close, run_done, letter?]
      by_cases hc : Category.of c = .ll <;>
        simp [smallLetters, CharSet.contains, hc, startFound]

/-- Characters and a letter behind them. -/
lemma run_separator (separator : List Char) (before : Option Char) (text : List Char) :
    run [.go (literal separator) [], .go (.group 1 (.one smallLetters)) []] [] before 0 text
      = (letterBehind? separator text).map fun _ => startFound separator.length := by
  rw [run_literal, run_letter, letterBehind?, Nat.zero_add]
  split_ifs <;> rfl

/-- The thread that waits for a letter at the start of the text. -/
def startThread : Thread := ⟨smallLetters, [(2, 0)], [.close 3]⟩

/-- Running through the separator begins with one thread, whatever the separator is.  Behind the
start of the text there is no other; at the start the one for the letter is better. -/
lemma exists_thread (separator : List Char) : ∃ t : Thread, ∀ b text,
    run [.go (literal separator) [], .go (.group 1 (.one smallLetters)) []] [] (some b) 0 text
        = follow [t] 0 none text
      ∧ matchAt (startExpr separator) (some b) text = follow [t] 0 none text
      ∧ matchAt (startExpr separator) none text = follow [startThread, t] 0 none text := by
  match separator with
  | [] => exact ⟨startThread, fun _ _ => ⟨rfl, rfl, rfl⟩⟩
  | [c] =>
      exact ⟨⟨.single c, [], [.go (.group 1 (.one smallLetters)) []]⟩,
        fun _ _ => ⟨rfl, rfl, rfl⟩⟩
  | c :: d :: w =>
      exact ⟨⟨.single c, [], [.go (literal (d :: w)) [], .go (.group 1 (.one smallLetters)) []]⟩,
        fun _ _ => ⟨rfl, rfl, rfl⟩⟩

/-- Behind a character, a word starts with the separator. -/
lemma matchAt_startExpr_some (separator : List Char) (b : Char) (text : List Char) :
    matchAt (startExpr separator) (some b) text
      = (letterBehind? separator text).map fun _ => startFound separator.length := by
  obtain ⟨t, ht⟩ := exists_thread separator
  obtain ⟨hrun, hsome, -⟩ := ht b text
  rw [hsome, ← hrun, run_separator]

/-- At the start of the text, a word starts with a letter or else with the separator. -/
lemma matchAt_startExpr_none (separator text : List Char) :
    matchAt (startExpr separator) none text
      = if (letter? text).isSome then some (startFound 0)
        else (letterBehind? separator text).map fun _ => startFound separator.length := by
  obtain ⟨t, ht⟩ := exists_thread separator
  obtain ⟨hrun, -, hnone⟩ := ht 'A' text
  rw [← run_separator separator (some 'A'), hrun, hnone]
  cases text with
  | nil => rfl
  | cons c rest =>
      have hletter : (letter? (c :: rest)).isSome = startThread.set.contains c := by
        rw [letter?]
        by_cases hc : Category.of c = .ll <;>
          simp [startThread, smallLetters, CharSet.contains, hc]
      rw [hletter]
      split_ifs with hc
      · -- the letter is the end of the better thread, so the other one is dropped
        rw [follow_cons]
        simp only [resumeAll, hc]
        exact follow_nil _ _ _
      · have hfilter : [startThread, t].filter (·.set.contains c) = [t].filter (·.set.contains c) :=
          List.filter_cons_of_neg hc
        rw [← follow_filter, hfilter, follow_filter]

/-! ## Replacing -/

/-- What is left of a word start. -/
def capitalized (groups : Groups) : List Char := ((groups 1).getD []).flatMap Case.upperChar

/-- The group of a match is its letter. -/
lemma capitalized_startFound {n : Nat} {text : List Char} {a : Char}
    (h : letter? (text.drop n) = some a) :
    capitalized ((startFound n).group? text) = Case.upperChar a := by
  have hgroup : (startFound n).group? text 1 = some ((text.drop n).take (n + 1 - n)) := rfl
  rw [capitalized, hgroup, Nat.add_sub_cancel_left]
  cases hdrop : text.drop n with
  | nil => rw [hdrop] at h; cases h
  | cons c rest =>
      rw [hdrop, letter?] at h
      split_ifs at h
      cases h
      simp

lemma letter?_drop_of_letterBehind? {separator text : List Char} {a : Char}
    (h : letterBehind? separator text = some a) :
    letter? (text.drop separator.length) = some a := by
  rw [letterBehind?] at h
  split_ifs at h
  exact h

/-- Replacing is the scan, as soon as words start only with the separator. -/
lemma splice_startExpr (separator : List Char) :
    ∀ (text : List Char) (skip : Nat) (ended : Bool) (before : Option Char),
      matchAt (startExpr separator) before text
          = (letterBehind? separator text).map (fun _ => startFound separator.length) →
        splice (startExpr separator) capitalized skip ended before text
          = joinAfter separator skip text
  | [], skip, ended, before, hmatch => by
      have hnone : letterBehind? separator [] = none := by simp [letterBehind?, letter?]
      rw [splice, hmatch, hnone]
      rfl
  | c :: rest, skip + 1, ended, before, hmatch => by
      rw [splice, joinAfter,
        splice_startExpr separator rest _ _ _ (matchAt_startExpr_some separator c rest)]
  | c :: rest, 0, ended, before, hmatch => by
      have ih (skip : Nat) (ended : Bool) := splice_startExpr separator rest skip ended (some c)
        (matchAt_startExpr_some separator c rest)
      rw [splice, joinAfter, hmatch]
      cases h : letterBehind? separator (c :: rest) with
      | none => simp only [Option.map_none, ih]
      | some a =>
          have hgroup := capitalized_startFound (letter?_drop_of_letterBehind? h)
          simp only [Option.map_some, hgroup]
          exact congrArg _ (ih _ _)

/-- A pattern of word starts replaces as the scan does, from the start of a text. -/
lemma splice_startExpr_none (separator text : List Char) :
    splice (startExpr separator) capitalized 0 false none text = join separator text := by
  have hmatch := matchAt_startExpr_none separator text
  rw [join]
  cases hletter : letter? text with
  | none =>
      rw [hletter] at hmatch
      exact splice_startExpr separator text 0 false none hmatch
  | some a =>
      rw [hletter] at hmatch
      cases text with
      | nil => cases hletter
      | cons c rest =>
          have hgroup : capitalized ((startFound 0).group? (c :: rest)) = Case.upperChar a :=
            capitalized_startFound hletter
          rw [splice, hmatch]
          simp only [Option.isSome_some, if_true, hgroup, List.tail_cons]
          exact congrArg _ (splice_startExpr separator rest 0 true (some c)
            (matchAt_startExpr_some separator c rest))

/-! ## The filter -/

/-- What joining does, if the pattern is not too large. -/
lemma apply_eq_join {c : CamelJoin} (hfits : compile (wordStart c.separator) ≠ .error .tooLarge)
    (text : String) :
    c.apply text = .ok (String.ofList (join c.separator.toList text.toList)) := by
  have hcompile := compile_of_read? (read?_wordStart c.separator) hfits
  rw [apply, hcompile, ofTerm_startTerm]
  exact congrArg (fun out => Except.ok (String.ofList out)) (splice_startExpr_none _ _)

/-- A filter on the text of strings gives what its function gives. -/
lemma run_onString {name : String} {f : String → Except Fault String} {text out : String}
    (h : f text = .ok out) : (Filter.onString name f).run (.string text) = .ok (.string out) := by
  have hrun : (Filter.onString name f).run (.string text)
      = (do let out ← f text; pure (.string out)) := rfl
  rw [hrun, h]
  rfl

lemma run_toFilter {c : CamelJoin} {text out : String} (h : c.apply text = .ok out) :
    c.toFilter.run (.string text) = .ok (.string out) := run_onString h

/-- **Joining is a single scan**, whatever the separator is: no character of it has a meaning.
Wherever the scan stands, it keeps what comes before the next separator with a letter behind it. -/
theorem run_toFilter_eq_join (c : CamelJoin)
    (hfits : compile (wordStart c.separator) ≠ .error .tooLarge) (text : String) :
    c.toFilter.run (.string text)
        = .ok (.string (String.ofList (join c.separator.toList text.toList)))
      ∧ ∀ u v, (∀ i < u.length, letterBehind? c.separator.toList ((u ++ v).drop i) = none) →
        joinAfter c.separator.toList 0 (u ++ v) = u ++ joinAfter c.separator.toList 0 v := by
  refine ⟨run_toFilter (apply_eq_join hfits text), fun u v hnone => ?_⟩
  exact joinAfter_append_of_none hnone

/-- Dots stand for themselves.  The first letter is capitalised without them, of three dots in a row
the last two go with the letter behind them, and in front of a capital letter they stay. -/
theorem run_ofSeparator_dots :
    compile (wordStart "..") ≠ .error .tooLarge
      ∧ (ofSeparator "..").toFilter.run (.string "a...ß..B.c") = .ok (.string "A.SS..B.c") := by
  have hfits : compile (wordStart "..") ≠ .error .tooLarge :=
    ne_tooLarge_of_isOk (by decide +kernel)
  have hrun := (run_toFilter_eq_join (ofSeparator "..") hfits "a...ß..B.c").1
  have hseparator : (ofSeparator "..").separator = ".." := rfl
  have hjoin : join "..".toList "a...ß..B.c".toList = "A.SS..B.c".toList := by decide +kernel
  rw [hseparator, hjoin, String.ofList_toList] at hrun
  exact ⟨hfits, hrun⟩

end Placeholders.CamelJoin
