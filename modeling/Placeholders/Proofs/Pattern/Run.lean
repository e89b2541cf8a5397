import Mathlib.Tactic.Common
import Placeholders.Pattern.Matcher

/-!
# One thread at a time

The matcher carries a list of threads, but most patterns of this library never have more than one:
they are characters in a row, with groups around some of them.  `run` is what the matcher does for a
single thread, and there is one equation for each step that a thread can take, so nobody has to
unfold the matcher to follow such a pattern through a text.

* `run` — the match that a thread gets to; `matchAt_eq_run` says that matching starts with one.
* `run_one_cons`, `run_one_nil`, `run_cat`, `run_group`, `run_close`, `run_done` — the steps.
* `follow_filter` — of several threads only those count that get the next character, so
  `run_either`: a choice between two sets that share no character is like a single set.
* **`run_greedyStar`** — a greedy loop over one set of characters takes the longest run of them.
  Here there are two ways on at every position, so this one is an induction over the text.
-/

namespace Placeholders.Pattern

/-- What a thread gets to that has `steps` to do, has written `slots` and stands `offset` characters
into the match, between `before` and `text`. -/
def run (steps : List Step) (slots : Slots) (before : Option Char) (offset : Nat)
    (text : List Char) : Option Found :=
  let p := resume ⟨before, text.head?, offset⟩ steps slots {}
  follow p.threads.reverse offset (p.done.map fun slots => ⟨offset, slots⟩) text

theorem matchAt_eq_run (e : Expr) (before : Option Char) (text : List Char) :
    matchAt e before text = run [.go e []] [] before 0 text := rfl

/-! ## Following threads -/

lemma follow_nil (offset : Nat) (best : Option Found) (text : List Char) :
    follow [] offset best text = best := by
  cases text <;> simp [follow]

/-- The threads of the next position, if there is only one now. -/
lemma resumeAll_single (here : Here) (c : Char) (t : Thread) :
    resumeAll here c [t] {}
      = if t.set.contains c then resume here t.steps t.slots {} else {} := by
  simp [resumeAll]

/-- A thread that is alone and gets its character goes on as a run; if it does not get it, nothing
is left. -/
lemma follow_single_cons (t : Thread) (offset : Nat) (c : Char) (rest : List Char) :
    follow [t] offset none (c :: rest)
      = if t.set.contains c then run t.steps t.slots (some c) (offset + 1) rest else none := by
  simp only [follow, resumeAll_single, run]
  split_ifs with h
  · cases (resume ⟨some c, rest.head?, offset + 1⟩ t.steps t.slots {}).done <;> rfl
  · exact follow_nil _ _ _

/-! ## Steps -/

variable (slots : Slots) (before : Option Char) (offset : Nat) (text : List Char)
  (steps : List Step) (copies : Copies)

lemma run_done : run [] slots before offset text = some ⟨offset, slots⟩ := by
  simp [run, resume, follow_nil]

lemma run_one_cons (s : CharSet) (c : Char) (rest : List Char) :
    run (.go (.one s) copies :: steps) slots before offset (c :: rest)
      = if s.contains c then run steps slots (some c) (offset + 1) rest else none := by
  simp only [run, resume, enter, List.reverse_cons, List.reverse_nil, List.nil_append,
    Option.map_none]
  exact follow_single_cons ⟨s, slots, steps⟩ offset c rest

lemma run_one_nil (s : CharSet) :
    run (.go (.one s) copies :: steps) slots before offset [] = none := by
  simp [run, resume, enter, follow]

/-- What comes behind one character can be exchanged. -/
lemma run_one_congr {steps' : List Step} (s : CharSet)
    (h : ∀ before offset text,
      run steps slots before offset text = run steps' slots before offset text) :
    run (.go (.one s) copies :: steps) slots before offset text
      = run (.go (.one s) copies :: steps') slots before offset text := by
  cases text with
  | nil => rw [run_one_nil, run_one_nil]
  | cons c rest => rw [run_one_cons, run_one_cons, h]

lemma run_cat (a b : Expr) :
    run (.go (.cat a b) copies :: steps) slots before offset text
      = run (.go a copies :: .go b copies :: steps) slots before offset text := rfl

lemma run_group (i : Nat) (e : Expr) :
    run (.go (.group i e) copies :: steps) slots before offset text
      = run (.go e copies :: .close (2 * i + 1) :: steps) ((2 * i, offset) :: slots) before offset
          text := rfl

lemma run_close (slot : Nat) :
    run (.close slot :: steps) slots before offset text
      = run steps ((slot, offset) :: slots) before offset text := rfl

/-! ## Several threads -/

lemma resumeAll_of_done {p : Position} (hp : p.done.isSome) (here : Here) (c : Char)
    (ts : List Thread) : resumeAll here c ts p = p := by
  cases ts with
  | nil => rfl
  | cons t ts => rw [resumeAll, if_pos hp]

lemma resumeAll_filter (here : Here) (c : Char) : ∀ (ts : List Thread) (p : Position),
    resumeAll here c (ts.filter (·.set.contains c)) p = resumeAll here c ts p
  | [], p => rfl
  | t :: ts, p => by
      by_cases hp : p.done.isSome
      · rw [resumeAll_of_done hp, resumeAll_of_done hp]
      · rw [List.filter_cons]
        split_ifs with ht
        · rw [resumeAll, resumeAll, if_neg hp, if_neg hp, resumeAll_filter here c ts]
        · rw [resumeAll, if_neg hp, if_neg ht, resumeAll_filter here c ts]

/-- One character further, be there threads or none. -/
lemma follow_cons (ts : List Thread) (best : Option Found) (c : Char) (rest : List Char) :
    follow ts offset best (c :: rest)
      = follow (resumeAll ⟨some c, rest.head?, offset + 1⟩ c ts {}).threads.reverse (offset + 1)
          (match (resumeAll ⟨some c, rest.head?, offset + 1⟩ c ts {}).done with
            | some slots => some ⟨offset + 1, slots⟩
            | none => best) rest := by
  cases ts with
  | nil => exact (follow_nil _ _ _).symm
  | cons t ts => rfl

/-- Only threads that get their character count. -/
lemma follow_filter (ts : List Thread) (best : Option Found) (c : Char) (rest : List Char) :
    follow (ts.filter (·.set.contains c)) offset best (c :: rest)
      = follow ts offset best (c :: rest) := by
  rw [follow_cons, follow_cons, resumeAll_filter]

/-- A choice between two sets goes on as the one that has the character, if not both have it. -/
theorem run_either {s t : CharSet} {c : Char} (h : ¬ (s.contains c ∧ t.contains c)) (label : Nat)
    (rest : List Char) :
    run (.go (.alt label (.one s) (.one t)) copies :: steps) slots before offset (c :: rest)
      = if s.contains c || t.contains c then run steps slots (some c) (offset + 1) rest
        else none := by
  have hthreads : run (.go (.alt label (.one s) (.one t)) copies :: steps) slots before offset
      (c :: rest) = follow [⟨s, slots, steps⟩, ⟨t, slots, steps⟩] offset none (c :: rest) := rfl
  rw [hthreads, ← follow_filter]
  cases hs : s.contains c <;> cases ht : t.contains c
  · simp [hs, ht, follow]
  · simp [hs, ht, follow_single_cons]
  · simp [hs, ht, follow_single_cons]
  · exact absurd ⟨hs, ht⟩ h

/-! ## A greedy loop

At the loop the thread may take another character or be done.  Taking one is preferred, so the place
behind the loop is only kept as the best match so far; what is found last is the longest.
-/

/-- The thread inside of a loop over a set, with the end of a group behind the loop. -/
def loopThread (label : Nat) (s : CharSet) (slot : Nat) : Thread :=
  ⟨s, slots, [.again label true (.one s) copies, .close slot]⟩

/-- One round: a thread that gets its character is there again, and behind the loop the end was
reached. -/
lemma resumeAll_loopThread (here : Here) (c : Char) (label : Nat) (s : CharSet) (slot : Nat) :
    resumeAll here c [loopThread slots copies label s slot] {}
      = if s.contains c then
          { visited := [(label, copies)], threads := [loopThread slots copies label s slot]
            done := some ((slot, here.offset) :: slots) }
        else {} := by
  rw [resumeAll_single]
  rfl

lemma follow_loopThread (label : Nat) (s : CharSet) (slot : Nat) :
    ∀ (text : List Char) (offset : Nat),
      follow [loopThread slots copies label s slot] offset
          (some ⟨offset, (slot, offset) :: slots⟩) text
        = some ⟨offset + (text.takeWhile s.contains).length,
            (slot, offset + (text.takeWhile s.contains).length) :: slots⟩
  | [], offset => by simp [follow]
  | c :: rest, offset => by
      rw [follow, resumeAll_loopThread]
      by_cases h : s.contains c
      · have ih := follow_loopThread label s slot rest (offset + 1)
        have hlen : offset + ((c :: rest).takeWhile s.contains).length
            = offset + 1 + (rest.takeWhile s.contains).length := by
          rw [List.takeWhile_cons, if_pos h, List.length_cons]
          omega
        rw [if_pos h, hlen]
        exact ih
      · rw [if_neg h, List.takeWhile_cons, if_neg h]
        exact follow_nil _ _ _

/-- **A greedy loop over a set takes the longest run of its characters**, be it empty, and the group
around the loop ends behind it. -/
theorem run_greedyStar (label inner : Nat) (s : CharSet) (slot : Nat) :
    run [.go (.alt label (.plus inner true (.one s)) .empty) copies, .close slot] slots before
        offset text
      = some ⟨offset + (text.takeWhile s.contains).length,
          (slot, offset + (text.takeWhile s.contains).length) :: slots⟩ := by
  rw [← follow_loopThread slots copies inner s slot text offset]
  rfl

end Placeholders.Pattern
