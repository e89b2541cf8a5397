import Mathlib.Data.Nat.Find
import Placeholders.Proofs.Resolver.Words

/-!
# The first placeholder that was left over

The fault of the strict policy names a word.  The search that finds it goes by a pattern, from left
to right; here is which place it comes to and how much it takes there, with no pattern involved.

* `LeftoverAt` — at a position the identifier stands before a letter.
* `wordAfter` — all the word characters behind the identifier.
* `matchAt_leftover`, `group?_leftover` — what the pattern matches at such a position, and what the
  group of the word gets of it.
* **`findLeftover_eq_some`** — the search comes to the first such position and takes all of the word.
* **`resolve_leftover`** — what the strict policy says of a text when all insertions are made.
-/

namespace Placeholders.Resolver

open Pattern

/-- At a position of the text stands the identifier, and a letter follows it. -/
def LeftoverAt (identifier text : List Char) (p : Nat) : Prop :=
  identifier <+: text.drop p ∧ (text.drop (p + identifier.length)).head?.any Char.isAlpha

instance (identifier text : List Char) : DecidablePred (LeftoverAt identifier text) := fun p =>
  inferInstanceAs (Decidable (identifier <+: text.drop p
    ∧ (text.drop (p + identifier.length)).head?.any Char.isAlpha))

/-- The characters that a placeholder is spelled with. -/
def isWordChar (c : Char) : Bool := c.isAlphanum || c == '_'

/-- All the word characters behind the identifier at a position. -/
def wordAfter (identifier text : List Char) (p : Nat) : List Char :=
  (text.drop (p + identifier.length)).takeWhile isWordChar

/-! ## Positions -/

/-- Behind the identifier the text goes on with a letter. -/
lemma leftoverAt_iff {w text : List Char} {p : Nat} :
    LeftoverAt w text p ↔ ∃ a rest, a.isAlpha ∧ text.drop p = w ++ a :: rest := by
  rw [LeftoverAt, ← List.drop_drop]
  constructor
  · rintro ⟨⟨behind, hbehind⟩, hletter⟩
    rw [← hbehind, List.drop_left] at hletter
    obtain ⟨a, ha, halpha⟩ := (Option.any_eq_true _ _).mp hletter
    obtain ⟨rest, rfl⟩ := List.head?_eq_some_iff.mp ha
    exact ⟨a, rest, halpha, hbehind.symm⟩
  · rintro ⟨a, rest, halpha, htext⟩
    rw [htext, List.drop_left]
    exact ⟨List.prefix_append w _, halpha⟩

lemma leftoverAt_iff_prefix {w text : List Char} {p : Nat} :
    LeftoverAt w text p ↔ ∃ a : Char, a.isAlpha ∧ w ++ [a] <+: text.drop p := by
  rw [leftoverAt_iff]
  constructor
  · rintro ⟨a, rest, halpha, htext⟩
    exact ⟨a, halpha, rest, by rw [htext, List.append_assoc, List.singleton_append]⟩
  · rintro ⟨a, halpha, rest, htext⟩
    exact ⟨a, rest, halpha, by rw [← htext, List.append_assoc, List.singleton_append]⟩

lemma hasLeftover_iff_exists {w text : List Char} :
    HasLeftover w text ↔ ∃ p, LeftoverAt w text p := by
  rw [hasLeftover_iff_suffix]
  constructor
  · rintro ⟨suffix, ⟨before, rfl⟩, hletter⟩
    exact ⟨before.length, leftoverAt_iff_prefix.mpr (by rwa [List.drop_left])⟩
  · rintro ⟨p, hp⟩
    exact ⟨text.drop p, List.drop_suffix p text, leftoverAt_iff_prefix.mp hp⟩

/-! ## The match -/

lemma wordChars_contains (c : Char) : wordChars.contains c = isWordChar c := by
  have hdigit : c.isDigit = (decide ('0' ≤ c) && decide (c ≤ '9')) := rfl
  have hcontains : wordChars.contains c
      = ((decide ('A' ≤ c) && decide (c ≤ 'Z')) || ((decide ('a' ≤ c) && decide (c ≤ 'z'))
        || ((decide ('0' ≤ c) && decide (c ≤ '9')) || c == '_'))) := rfl
  have hletters : c.isAlpha
      = ((decide ('A' ≤ c) && decide (c ≤ 'Z')) || (decide ('a' ≤ c) && decide (c ≤ 'z'))) :=
    (letters_contains c).symm
  rw [hcontains, isWordChar, Char.isAlphanum, hletters, hdigit]
  simp only [Bool.or_assoc]

lemma takeWhile_wordChars (text : List Char) :
    text.takeWhile wordChars.contains = text.takeWhile isWordChar :=
  congrArg (List.takeWhile · text) (funext wordChars_contains)

lemma isWordChar_of_isAlpha {c : Char} (h : c.isAlpha) : isWordChar c := by
  rw [isWordChar, Char.isAlphanum, h]
  rfl

/-- What the pattern matches where a letter follows the identifier: the identifier, the letter and the
word characters after it.  The group of the word begins behind the identifier. -/
lemma matchAt_leftover (w : List Char) {a : Char} (ha : a.isAlpha) (rest : List Char)
    (before : Option Char) :
    let last := w.length + 1 + (rest.takeWhile isWordChar).length
    matchAt (Expr.ofTerm (Term.after w wordGroup)) before (w ++ a :: rest)
      = some ⟨last, [(3, last), (2, w.length)]⟩ := by
  have hpre : w.isPrefixOf (w ++ a :: rest) = true :=
    List.isPrefixOf_iff_prefix.mpr (List.prefix_append w _)
  rw [ofTerm_after, matchAt_after, if_pos hpre, List.drop_left, run_wordGroup_cons, if_pos ha,
    takeWhile_wordChars]

/-- The group of the word gets all the word characters behind the identifier. -/
lemma group?_leftover (w : List Char) {a : Char} (ha : a.isAlpha) (rest : List Char) :
    let last := w.length + 1 + (rest.takeWhile isWordChar).length
    Found.group? ⟨last, [(3, last), (2, w.length)]⟩ (w ++ a :: rest) 1
      = some ((a :: rest).takeWhile isWordChar) := by
  intro last
  have hgroup : Found.group? ⟨last, [(3, last), (2, w.length)]⟩ (w ++ a :: rest) 1
      = some (((w ++ a :: rest).drop w.length).take (last - w.length)) := rfl
  have hlength : last - w.length = (rest.takeWhile isWordChar).length + 1 := by
    simp only [last]
    omega
  have hword : rest.take (rest.takeWhile isWordChar).length = rest.takeWhile isWordChar :=
    (List.prefix_iff_eq_take.mp (List.takeWhile_prefix _)).symm
  rw [hgroup, List.drop_left, hlength, List.take_succ_cons, hword,
    List.takeWhile_cons_of_pos (isWordChar_of_isAlpha ha)]

/-! ## The search -/

/-- A search gives the groups of the match at the first position that has one. -/
lemma firstGroups?_eq_some {e : Expr} {found : Found} :
    ∀ {text : List Char} {p : Nat} (before : Option Char),
      (∀ b, matchAt e b (text.drop p) = some found) →
      (∀ q < p, ∀ b, matchAt e b (text.drop q) = none) →
      firstGroups? e before text = some (found.group? (text.drop p))
  | [], 0, before, hhere, _ => by
      have hmatch : matchAt e before [] = some found := hhere before
      rw [firstGroups?, hmatch]
      rfl
  | c :: text, 0, before, hhere, _ => by
      have hmatch : matchAt e before (c :: text) = some found := hhere before
      rw [firstGroups?, hmatch]
      rfl
  | [], p + 1, before, hhere, hfirst => by
      -- past the end every position looks like the end itself
      have hend := hfirst 0 (Nat.succ_pos p) before
      rw [List.drop_nil] at hend
      have hmatch := hhere before
      rw [List.drop_nil, hend] at hmatch
      cases hmatch
  | c :: text, p + 1, before, hhere, hfirst => by
      have hnot : matchAt e before (c :: text) = none := hfirst 0 (Nat.succ_pos p) before
      rw [firstGroups?, hnot]
      exact firstGroups?_eq_some (some c) hhere fun q hq => hfirst (q + 1) (Nat.succ_lt_succ hq)

/-- **The search comes to the first position, and takes all of the word.** -/
theorem findLeftover_eq_some {identifier text : String} {p : Nat}
    (hfits : compile (leftover identifier) ≠ .error .tooLarge)
    (hp : LeftoverAt identifier.toList text.toList p)
    (hfirst : ∀ q < p, ¬ LeftoverAt identifier.toList text.toList q) :
    findLeftover identifier text
      = .ok (some (String.ofList (wordAfter identifier.toList text.toList p))) := by
  obtain ⟨a, rest, ha, hrest⟩ := leftoverAt_iff.mp hp
  have hbefore : ∀ q < p, ∀ b,
      matchAt (Expr.ofTerm (Term.after identifier.toList wordGroup)) b (text.toList.drop q)
        = none := by
    intro q hq b
    rw [← Option.not_isSome_iff_eq_none, isSome_matchAt_leftover, ← leftoverAt_iff_prefix]
    exact hfirst q hq
  have hgroups := firstGroups?_eq_some none
    (fun b => by rw [hrest]; exact matchAt_leftover identifier.toList ha rest b) hbefore
  have hword : wordAfter identifier.toList text.toList p = (a :: rest).takeWhile isWordChar := by
    rw [wordAfter, ← List.drop_drop, hrest, List.drop_left]
  rw [findLeftover, compile_of_read? (read?_leftover identifier) hfits]
  dsimp only
  rw [hgroups, Option.map_some, hrest, group?_leftover identifier.toList ha rest, hword]
  rfl

/-! ## The policy -/

/-- What ends well has gone on from what began well. -/
lemma exists_eq_ok_of_bind {α β : Type} {x : Except Fault α} {f : α → Except Fault β} {b : β}
    (h : x >>= f = .ok b) : ∃ a, x = .ok a ∧ f a = .ok b := by
  cases x with
  | error fault => cases h
  | ok a => exact ⟨a, rfl, h⟩

/-- A text that comes through the search is the one that was searched, and nothing is left over in
it. -/
lemma not_hasLeftover_of_finish {identifier made text : String}
    (hfits : compile (leftover identifier) ≠ .error .tooLarge)
    (h : finish identifier true made = .ok text) :
    ¬ HasLeftover identifier.toList text.toList := by
  by_cases hleft : HasLeftover identifier.toList made.toList
  · obtain ⟨spec, herror⟩ := finish_of_hasLeftover hfits hleft
    rw [herror] at h
    cases h
  · rw [finish_of_not_hasLeftover hfits hleft] at h
    rwa [← Except.ok.inj h]

/-- **The strict policy lets no placeholder through, and names the first one that is left.**  If it
gives a text, the text has no place where a letter follows the identifier.  If the insertions were all
made and there are such places in the text, the fault has this text, the identifier, and the whole
word behind the identifier at the first of them. -/
theorem resolve_leftover (r : Resolver) (source : Json) (hid : r.identifier ≠ "")
    (hstrict : r.strict = true) (hpattern : ∃ pattern, compile (leftover r.identifier) = .ok pattern) :
    (∀ text, r.resolve source = .ok text → ∀ p, ¬ LeftoverAt r.identifier.toList text.toList p)
      ∧ ∀ s steps, Source.ofJson source = .ok s → queue s r.rules.entries = .ok steps →
          (∀ step ∈ steps, IsPattern r.identifier step.1) →
          let text := steps.foldl (insertion r.identifier) r.target
          (∃ p, LeftoverAt r.identifier.toList text.toList p) →
          ∃ p, LeftoverAt r.identifier.toList text.toList p
            ∧ (∀ q < p, ¬ LeftoverAt r.identifier.toList text.toList q)
            ∧ r.resolve source = .error (.unresolved r.identifier
                (String.ofList (wordAfter r.identifier.toList text.toList p)) text) := by
  have hfits : compile (leftover r.identifier) ≠ .error .tooLarge := by
    obtain ⟨pattern, hok⟩ := hpattern
    rw [hok]
    exact nofun
  constructor
  · intro text hresolve p hp
    rw [resolve_eq_bind hid, hstrict] at hresolve
    obtain ⟨s, -, hqueue⟩ := exists_eq_ok_of_bind hresolve
    obtain ⟨steps, -, hsubstitute⟩ := exists_eq_ok_of_bind hqueue
    obtain ⟨made, -, hfinish⟩ := exists_eq_ok_of_bind hsubstitute
    exact not_hasLeftover_of_finish hfits hfinish (hasLeftover_iff_exists.mpr ⟨p, hp⟩)
  · intro s steps hs hqueue hpatterns text hleft
    have hp := Nat.find_spec hleft
    have hfirst : ∀ q < Nat.find hleft, ¬ LeftoverAt r.identifier.toList text.toList q :=
      fun _ => Nat.find_min hleft
    refine ⟨Nat.find hleft, hp, hfirst, ?_⟩
    rw [resolve_eq_bind hid, hs]
    change queue s r.rules.entries >>= _ = _
    rw [hqueue]
    change substitute r.identifier r.strict r.target steps >>= _ = _
    rw [substitute_of_patterns r.strict r.target hpatterns]
    change finish r.identifier r.strict text = _
    rw [finish, if_pos hstrict, findLeftover_eq_some hfits hp hfirst]
    rfl

/-- An identifier that overlaps itself, and a fixed text that brings more placeholders along. -/
def colons : Resolver where
  target := "x:::who!"
  identifier := "::"
  rules :=
    { catalog := {}
      entries := [⟨"who", .static "::a1_b-::c"⟩]
      positions := [("who", 0)] }

theorem resolve_leftover_colons :
    colons.identifier ≠ "" ∧ colons.strict = true
      ∧ (∃ pattern, compile (leftover colons.identifier) = .ok pattern)
      ∧ colons.resolve (.object []) = .error (.unresolved "::" "a1_b" "x:::a1_b-::c!") := by
  have hid : colons.identifier ≠ "" := by decide
  have hpattern : ∃ pattern, compile (leftover colons.identifier) = .ok pattern :=
    ⟨_, compile_of_read? (read?_leftover "::") (ne_tooLarge_of_isOk (by decide +kernel))⟩
  have hwho : IsPattern "::" "who" :=
    ⟨_, compile_placeholder (by decide) (ne_tooLarge_of_isOk (by decide +kernel))⟩
  have hmade : [("who", "::a1_b-::c")].foldl (insertion colons.identifier) colons.target
      = "x:::a1_b-::c!" := by decide +kernel
  have hhit : LeftoverAt "::".toList "x:::a1_b-::c!".toList 2 := by decide +kernel
  have hmiss : ∀ q < 2, ¬ LeftoverAt "::".toList "x:::a1_b-::c!".toList q := by decide +kernel
  have hfault := (resolve_leftover colons (.object []) hid rfl hpattern).2 ⟨[]⟩
    [("who", "::a1_b-::c")] rfl rfl (List.forall_mem_singleton.mpr hwho)
  simp only [hmade] at hfault
  obtain ⟨p, hp, hfirst, hresolve⟩ := hfault ⟨2, hhit⟩
  obtain rfl : p = 2 := by
    rcases Nat.lt_trichotomy p 2 with hlt | heq | hgt
    · exact absurd hp (hmiss p hlt)
    · exact heq
    · exact absurd hhit (hfirst 2 hgt)
  refine ⟨hid, rfl, hpattern, hresolve.trans ?_⟩
  decide +kernel

end Placeholders.Resolver
