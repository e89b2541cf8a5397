import Placeholders.Proofs.Pattern.Literal
import Placeholders.Resolver

/-!
# Placeholders that were left over

Under the strict policy the text is searched for the identifier with a word behind it.  The search
is made by a pattern; this file says what it finds without one.

* `HasLeftover` — somewhere in the text a letter follows the identifier.
* `read?_leftover` — the pattern is read as the characters of the identifier and a group for the
  word, whatever the identifier is.
* `isSome_matchAt_leftover` — where it matches.
* **`findLeftover_isSome_iff`** — the search answers, and it finds something just if there is a
  leftover.  The only way not to answer is an identifier that makes too large a program, and
  `compile_leftover_singleton` says that one character never does.
* `finish` — the end of resolving, under either policy.
-/

namespace Placeholders.Resolver

open Pattern

/-- The letters that a leftover word begins with. -/
def letters : CharSet := .union (.range 'A' 'Z') (.range 'a' 'z')

/-- The characters that it goes on with. -/
def wordChars : CharSet :=
  .union (.range 'A' 'Z') (.union (.range 'a' 'z') (.union (.range '0' '9') (.single '_')))

/-- The group of the word in the pattern of a leftover placeholder. -/
def wordGroup : Term := .group 1 (.cat (.one letters) (.repeated true 0 none (.one wordChars)))

/-- Somewhere in the text a letter follows the identifier. -/
def HasLeftover (identifier text : List Char) : Prop :=
  ∃ a : Char, a.isAlpha ∧ identifier ++ [a] <:+: text

lemma letters_contains (c : Char) : letters.contains c = c.isAlpha := by
  have hupper : c.isUpper = (decide ('A' ≤ c) && decide (c ≤ 'Z')) := Bool.decide_and _ _
  have hlower : c.isLower = (decide ('a' ≤ c) && decide (c ≤ 'z')) := rfl
  change ((decide ('A' ≤ c) && decide (c ≤ 'Z')) || (decide ('a' ≤ c) && decide (c ≤ 'z')))
    = (c.isUpper || c.isLower)
  rw [hupper, hlower]

/-! ## The pattern -/

/-- The end of the pattern is read as the group of the word, whatever came before. -/
lemma readFrom_wordGroup (fuel : Nat) (ps : List Piece) :
    readFrom (fuel + 6) { pieces := ps } "([A-Za-z][A-Za-z0-9_]*)".toList
      = some { pieces := .term ⟨wordGroup, 5⟩ :: ps, captures := 1 } := rfl

lemma toList_leftover (identifier : String) :
    (leftover identifier).toList
      = quote identifier.toList ++ "([A-Za-z][A-Za-z0-9_]*)".toList := by
  rw [leftover, String.toList_append, String.toList_ofList]

/-- **The pattern of a leftover placeholder can be read**, whatever the identifier is. -/
theorem read?_leftover (identifier : String) :
    read? (leftover identifier).toList = some (Term.after identifier.toList wordGroup) := by
  set w := identifier.toList with hw
  obtain ⟨k, hk⟩ := Nat.exists_eq_add_of_le (length_le_length_quote w)
  have hlen : (leftover identifier).toList.length + 1 = w.length + (k + 18 + 6) := by
    rw [toList_leftover, List.length_append, ← hw, hk]
    simp
    omega
  have h := readFrom_quote w (k + 18 + 6) (r := {}) rfl "([A-Za-z][A-Za-z0-9_]*)".toList
  rw [List.append_nil, readFrom_wordGroup, ← hlen, hw, ← toList_leftover] at h
  rw [read?_of_readFrom h, List.reverse_cons, List.map_append, charPieces_terms]
  · exact congrArg some (concat_charTerms_append w (List.cons_ne_nil wordGroup []))
  · intro p hp
    rcases List.mem_cons.mp hp with rfl | hp
    · decide
    · rw [depth_of_mem_charPieces hp]
      decide

/-! ## Where it matches -/

lemma ofTerm_wordGroup :
    Expr.ofTerm wordGroup
      = .group 1 (.cat (.one letters) (.alt 0 (.plus 1 true (.one wordChars)) .empty)) := rfl

/-- Behind the identifier the pattern takes a letter and all word characters after it. -/
lemma run_wordGroup_cons (before : Option Char) (offset : Nat) (a : Char) (rest : List Char) :
    run [.go (Expr.ofTerm wordGroup) []] [] before offset (a :: rest)
      = if a.isAlpha then
          some ⟨offset + 1 + (rest.takeWhile wordChars.contains).length,
            [(3, offset + 1 + (rest.takeWhile wordChars.contains).length), (2, offset)]⟩
        else none := by
  rw [ofTerm_wordGroup, run_group, run_cat, run_one_cons, letters_contains, run_greedyStar]

lemma run_wordGroup_nil (before : Option Char) (offset : Nat) :
    run [.go (Expr.ofTerm wordGroup) []] [] before offset [] = none := by
  rw [ofTerm_wordGroup, run_group, run_cat, run_one_nil]

/-- The pattern matches where the identifier begins and a letter follows it. -/
theorem isSome_matchAt_leftover (w : List Char) (before : Option Char) (text : List Char) :
    (matchAt (Expr.ofTerm (Term.after w wordGroup)) before text).isSome
      ↔ ∃ a : Char, a.isAlpha ∧ w ++ [a] <+: text := by
  rw [ofTerm_after, matchAt_after]
  by_cases hpre : w <+: text
  · obtain ⟨rest, rfl⟩ := hpre
    rw [if_pos (List.isPrefixOf_iff_prefix.mpr (List.prefix_append w rest)), List.drop_left]
    simp only [List.prefix_append_right_inj]
    cases rest with
    | nil => simp [run_wordGroup_nil]
    | cons a rest =>
        rw [run_wordGroup_cons]
        by_cases ha : a.isAlpha
        · simp [ha, List.cons_prefix_cons]
        · simp [ha, List.cons_prefix_cons]
  · rw [if_neg (by rwa [List.isPrefixOf_iff_prefix])]
    refine iff_of_false (by simp) ?_
    rintro ⟨a, -, h⟩
    exact hpre ((List.prefix_append w [a]).trans h)

/-! ## The search -/

/-- A search finds something just if some suffix begins with a match. -/
lemma isSome_firstGroups? {e : Expr} {P : List Char → Prop}
    (h : ∀ before text, (matchAt e before text).isSome ↔ P text) :
    ∀ (text : List Char) (before : Option Char),
      (firstGroups? e before text).isSome ↔ ∃ suffix, suffix <:+ text ∧ P suffix
  | [], before => by
      rw [firstGroups?, Option.isSome_map, h]
      simp
  | c :: text, before => by
      have hcons : (∃ suffix, suffix <:+ c :: text ∧ P suffix)
          ↔ P (c :: text) ∨ ∃ suffix, suffix <:+ text ∧ P suffix := by
        simp only [List.suffix_cons_iff, or_and_right, exists_or, exists_eq_left]
      have hhere := h before (c :: text)
      rw [hcons, firstGroups?, ← hhere]
      cases matchAt e before (c :: text) with
      | none => simpa using isSome_firstGroups? h text (some c)
      | some found => simp

lemma hasLeftover_iff_suffix (w text : List Char) :
    HasLeftover w text
      ↔ ∃ suffix, suffix <:+ text ∧ ∃ a : Char, a.isAlpha ∧ w ++ [a] <+: suffix := by
  constructor
  · rintro ⟨a, ha, hin⟩
    obtain ⟨suffix, hpre, hsuf⟩ := List.infix_iff_prefix_suffix.mp hin
    exact ⟨suffix, hsuf, a, ha, hpre⟩
  · rintro ⟨suffix, hsuf, a, ha, hpre⟩
    exact ⟨a, ha, List.infix_iff_prefix_suffix.mpr ⟨suffix, hpre, hsuf⟩⟩

/-- **The search for a leftover placeholder answers, and finds something just if there is one.** -/
theorem findLeftover_isSome_iff {identifier : String} (text : String)
    (hfits : compile (leftover identifier) ≠ .error .tooLarge) :
    ∃ found, findLeftover identifier text = .ok found
      ∧ (found.isSome ↔ HasLeftover identifier.toList text.toList) := by
  have hcompile := compile_of_read? (read?_leftover identifier) hfits
  refine ⟨_, by rw [findLeftover, hcompile], ?_⟩
  rw [Option.isSome_map, hasLeftover_iff_suffix]
  exact isSome_firstGroups? (isSome_matchAt_leftover identifier.toList) text.toList none

/-! ## The end of resolving -/

/-- What is done with the text when all replacements are made: the strict policy looks for
leftovers. -/
def finish (identifier : String) (strict : Bool) (text : String) : Except Fault String :=
  if strict then
    findLeftover identifier text >>= fun found =>
      match found with
      | some spec => .error (.unresolved identifier spec text)
      | none => pure text
  else pure text

lemma finish_of_hasLeftover {identifier text : String}
    (hfits : compile (leftover identifier) ≠ .error .tooLarge)
    (h : HasLeftover identifier.toList text.toList) :
    ∃ spec, finish identifier true text = .error (.unresolved identifier spec text) := by
  obtain ⟨found, hfound, hiff⟩ := findLeftover_isSome_iff text hfits
  obtain ⟨spec, rfl⟩ := Option.isSome_iff_exists.mp (hiff.mpr h)
  exact ⟨spec, by rw [finish, if_pos rfl, hfound]; rfl⟩

lemma finish_of_not_hasLeftover {identifier text : String}
    (hfits : compile (leftover identifier) ≠ .error .tooLarge)
    (h : ¬ HasLeftover identifier.toList text.toList) : finish identifier true text = .ok text := by
  obtain ⟨found, hfound, hiff⟩ := findLeftover_isSome_iff text hfits
  obtain rfl : found = none := Option.not_isSome_iff_eq_none.mp fun hsome => h (hiff.mp hsome)
  rw [finish, if_pos rfl, hfound]
  rfl

/-- An identifier of one character makes no program that is too large. -/
lemma compile_leftover_singleton (c : Char) :
    compile (leftover (String.singleton c)) ≠ .error .tooLarge := by
  have hread := read?_leftover (String.singleton c)
  have hlist : (String.singleton c).toList = [c] := String.toList_singleton c
  have hfits : (Term.after [c] wordGroup).fits = true := by
    have hbound : (Term.after [c] wordGroup).bound = 500 + wordGroup.bound + 10 := rfl
    rw [Term.fits, hbound, Bool.or_eq_true]
    exact Or.inl (by decide)
  rw [hlist] at hread
  simp [compile, hread, hfits]

end Placeholders.Resolver
