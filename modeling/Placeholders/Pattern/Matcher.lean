import Placeholders.Pattern.Expr

/-!
# Matching

A text is matched by following all ways through an expression at once, in order of preference.

A *thread* waits for one character and knows what comes after it.  At each position the threads
that got their character are resumed, best first; each runs on to the next places that want a
character, and these are the threads of the next position.  A choice is entered once per position:
a later visit would only repeat what a better thread has tried.  This also ends every loop, since
a round that takes no character comes back to a choice it has been at.  As soon as a thread gets to
the end of the expression, all worse threads are dropped; the better ones go on, and the last to
arrive is the match.

* `Step`, `Thread` — what is left to do, and a thread.
* `enter`, `resume` — running on to the next characters.
* `matchAt` — the preferred match that begins at a position.
* `Found.group?` — the text of a capture group.
-/

namespace Placeholders.Pattern

/-- Slots of capture groups with the offsets written to them, latest first.  Group `i` writes its
start to slot `2 * i` and its end to slot `2 * i + 1`. -/
abbrev Slots := List (Nat × Nat)

/-- Which copies of counted expressions a place lies in: label and number of each, innermost
first. -/
abbrev Copies := List (Nat × Nat)

/-- A choice: its label and the copies it lies in. -/
abbrev Choice := Nat × Copies

/-- A step still to be done. -/
inductive Step where
  /-- match the expression -/
  | go (e : Expr) (copies : Copies)
  /-- write the end of a group -/
  | close (slot : Nat)
  /-- a round of a loop is complete -/
  | again (label : Nat) (greedy : Bool) (e : Expr) (copies : Copies)
  /-- `n` copies are left -/
  | times (label n : Nat) (e : Expr) (copies : Copies)
  /-- at most `n` copies are left -/
  | upTo (label n : Nat) (greedy : Bool) (e : Expr) (copies : Copies)

/-- A way through the expression that waits for a character. -/
structure Thread where
  set : CharSet
  slots : Slots
  steps : List Step

/-- What is known at one position: the choices visited, the threads that wait there, worst first,
and whether the end of the expression was reached. -/
structure Position where
  visited : List Choice := []
  threads : List Thread := []
  done : Option Slots := none

/-- Characters around a position, and its offset from the start of the match. -/
structure Here where
  before : Option Char
  after : Option Char
  offset : Nat

/-- A way on from a position. -/
abbrev Way := Slots → Position → Position

/-- Tries one way and then, unless the end was reached, another. -/
def orElse (first second : Position → Position) (p : Position) : Position :=
  let p := first p
  if p.done.isSome then p else second p

/-- Enters a choice unless it was visited before. -/
def visit (choice : Choice) (onward : Position → Position) (p : Position) : Position :=
  if p.visited.contains choice then p
  else onward { p with visited := choice :: p.visited }

/-- Two ways on, the preferred one first. -/
def prefer (firstIsBetter : Bool) (first second : Position → Position) : Position → Position :=
  if firstIsBetter then orElse first second else orElse second first

/-- `n` copies in a row.  `copy k onward` is a copy with `k` more after it. -/
def inRow (copy : Nat → Way → Way) (onward : Way) : Nat → Way
  | 0 => onward
  | k + 1 => copy k (inRow copy onward k)

/-- At most `n` copies in a row; each is a choice. -/
def atMost (choice : Nat → Choice) (greedy : Bool) (copy : Nat → Way → Way) (onward : Way) :
    Nat → Way
  | 0 => onward
  | k + 1 => fun slots =>
    visit (choice k) <|
      prefer greedy (copy k (atMost choice greedy copy onward k) slots) (onward slots)

/-- Runs into an expression.  `steps` is what comes after it, for threads to take along, and
`onward` does the same at this position, for ways through the expression that take no
character. -/
def enter (here : Here) : Expr → Copies → List Step → Way → Way
  | .empty, _, _, onward => onward
  | .one set, _, steps, _ => fun slots p =>
    { p with threads := ⟨set, slots, steps⟩ :: p.threads }
  | .look l, _, _, onward => fun slots p =>
    if l.holds here.before here.after then onward slots p else p
  | .group i e, copies, steps, onward => fun slots =>
    enter here e copies (.close (2 * i + 1) :: steps)
      (fun slots => onward ((2 * i + 1, here.offset) :: slots))
      ((2 * i, here.offset) :: slots)
  | .cat a b, copies, steps, onward =>
    enter here a copies (.go b copies :: steps) (enter here b copies steps onward)
  | .alt label a b, copies, steps, onward => fun slots =>
    visit (label, copies) <|
      orElse (enter here a copies steps onward slots) (enter here b copies steps onward slots)
  | .plus label greedy e, copies, steps, onward =>
    enter here e copies (.again label greedy e copies :: steps)
      fun slots => visit (label, copies) (onward slots)
  | .times label n e, copies, steps, onward =>
    inRow (fun k => enter here e ((label, k) :: copies) (.times label k e copies :: steps))
      onward n
  | .upTo label n greedy e, copies, steps, onward =>
    atMost (fun k => (label, (label, k) :: copies)) greedy
      (fun k => enter here e ((label, k) :: copies) (.upTo label k greedy e copies :: steps))
      onward n

/-- Runs on with the steps of a thread that got its character. -/
def resume (here : Here) : List Step → Way
  | [] => fun slots p => { p with done := some slots }
  | .go e copies :: steps => enter here e copies steps (resume here steps)
  | .close slot :: steps => fun slots => resume here steps ((slot, here.offset) :: slots)
  | .again label greedy e copies :: steps => fun slots =>
    visit (label, copies) <|
      prefer greedy
        (enter here e copies (.again label greedy e copies :: steps) (fun _ p => p) slots)
        (resume here steps slots)
  | .times label n e copies :: steps =>
    inRow (fun k => enter here e ((label, k) :: copies) (.times label k e copies :: steps))
      (resume here steps) n
  | .upTo label n greedy e copies :: steps =>
    atMost (fun k => (label, (label, k) :: copies)) greedy
      (fun k => enter here e ((label, k) :: copies) (.upTo label k greedy e copies :: steps))
      (resume here steps) n

/-- Resumes the threads that wait for `c`, best first, until the end is reached. -/
def resumeAll (here : Here) (c : Char) : List Thread → Position → Position
  | [], p => p
  | t :: rest, p =>
    if p.done.isSome then p
    else resumeAll here c rest (if t.set.contains c then resume here t.steps t.slots p else p)

/-- A match: its length in characters and the slots of its groups. -/
structure Found where
  length : Nat
  slots : Slots
  deriving DecidableEq

/-- Follows the threads, best first, through the rest of the text.  `best` is the best match so
far. -/
def follow : List Thread → Nat → Option Found → List Char → Option Found
  | _, _, best, [] => best
  | [], _, best, _ => best
  | t :: ts, offset, best, c :: rest =>
    let p := resumeAll ⟨some c, rest.head?, offset + 1⟩ c (t :: ts) {}
    let best := match p.done with
      | some slots => some ⟨offset + 1, slots⟩
      | none => best
    follow p.threads.reverse (offset + 1) best rest

/-- The preferred match at the start of `text`, which `before` precedes. -/
def matchAt (e : Expr) (before : Option Char) (text : List Char) : Option Found :=
  let p := resume ⟨before, text.head?, 0⟩ [.go e []] [] {}
  follow p.threads.reverse 0 (p.done.map fun slots => ⟨0, slots⟩) text

/-- The text of a capture group of a match at the start of `text`; group 0 is all of the match.  A
group that took no part has no text. -/
def Found.group? (found : Found) (text : List Char) : Nat → Option (List Char)
  | 0 => some (text.take found.length)
  | i + 1 => do
    let first ← found.slots.lookup (2 * (i + 1))
    let last ← found.slots.lookup (2 * (i + 1) + 1)
    pure ((text.drop first).take (last - first))

end Placeholders.Pattern
