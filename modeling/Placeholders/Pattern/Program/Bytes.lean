import Placeholders.Pattern.Program.Tally
import Std.Data.HashMap

/-!
# Programs for sets of characters

A set of characters becomes states that read its byte sequences.  States are shared by way of a
table with a fixed number of slots, in which a state may displace another: so nearly all states
that agree are made only once, and which ones are made twice depends on their numbers.

* `forwardSet` — a program that reads forward shares what comes after a byte.
* `backwardSet` — a program that reads backward shares what was read before.
* `addSet` — a set as part of a program.
-/

namespace Placeholders.Pattern

open Utf8 (ByteRange)

/-! ## Slots -/

/-- The slot of some numbers in a table of the given size. -/
def slotOf (size : UInt64) (numbers : List Nat) : Nat :=
  let mixed := numbers.foldl (fun h n => (h ^^^ n.toUInt64) * 1099511628211) 14695981039346656037
  (mixed % size).toNat

/-- States by slot: what the last state in each slot is made of, and its number. -/
abbrev Shelf (α : Type) := Std.HashMap Nat (α × Nat)

/-- The number of a state made of these parts, with a tally of the states.  The state in the slot is
taken again if it has the same parts. -/
def share {α : Type} [BEq α] (slot : Nat) (parts : α) (extra : Nat) (known : Shelf α)
    (tally : Tally) : Nat × Shelf α × Tally :=
  let fresh := (tally.states, known.insert slot (parts, tally.states),
    ⟨tally.states + 1, tally.extra + extra⟩)
  match known[slot]? with
  | some (others, number) => if parts == others then (number, known, tally) else fresh
  | none => fresh

/-! ## Forward -/

/-- An arc: a byte range, and the number of the state it leads to. -/
abbrev Arc := ByteRange × Nat

/-- A state in the making: its arcs, latest first, and the range of one whose target is not known
yet. -/
structure OpenState where
  arcs : List Arc
  pending : Option ByteRange

/-- The state with its pending arc led to a target. -/
def OpenState.close (s : OpenState) (target : Nat) : OpenState :=
  match s.pending with
  | some range => ⟨(range, target) :: s.arcs, none⟩
  | none => s

/-- The number of slots for states that read forward. -/
def forwardSlots : UInt64 := 10000

/-- Makes a state. -/
def makeState (arcs : List Arc) (known : Shelf (List Arc)) (tally : Tally) :
    Nat × Shelf (List Arc) × Tally :=
  let slot := slotOf forwardSlots (arcs.flatMap fun ((a, b), target) => [a, b, target])
  share slot arcs (Tally.arcBytes * arcs.length) known tally

/-- Makes the states on a path, last first, and gives the number of the first.  After the last comes
the target. -/
def closePath (target : Nat) :
    List OpenState → Shelf (List Arc) → Tally → Nat × Shelf (List Arc) × Tally
  | [], known, tally => (target, known, tally)
  | s :: path, known, tally =>
    let (next, known, tally) := closePath target path known tally
    makeState (s.close next).arcs.reverse known tally

/-- Adds a byte sequence to the path of states that are still open.  The path is kept as far as the
sequence goes along with it; the states after that are made. -/
def addSequence (target : Nat) : List OpenState → List ByteRange → Shelf (List Arc) → Tally →
    List OpenState × Shelf (List Arc) × Tally
  | s :: path, range :: rest, known, tally =>
    if s.pending == some range then
      let (path, known, tally) := addSequence target path rest known tally
      (s :: path, known, tally)
    else
      let (next, known, tally) := closePath target path known tally
      (⟨(s.close next).arcs, some range⟩ :: rest.map (⟨[], some ·⟩), known, tally)
  | path, _, known, tally => (path, known, tally)

/-- The tally after a set that is read forward: its end, and the states before it. -/
def forwardSet (runs : List Run) (tally : Tally) : Tally :=
  let target := tally.states
  let (path, known, tally) := (runs.flatMap Utf8.sequences).foldl
    (fun (path, known, tally) sequence => addSequence target path sequence known tally)
    ([⟨[], none⟩], ∅, ⟨tally.states + 1, tally.extra⟩)
  (closePath target path known tally).2.2

/-! ## Backward -/

/-- The number of slots for states that read backward. -/
def backwardSlots : UInt64 := 1000

/-- Makes the states of a byte sequence, each of which leads to the one before it. -/
def walkBack : (target : Nat) → List ByteRange → Shelf Arc → Tally → Shelf Arc × Tally
  | _, [], known, tally => (known, tally)
  | target, range :: rest, known, tally =>
    let slot := slotOf backwardSlots [target, range.1, range.2]
    let (next, known, tally) := share slot (range, target) 0 known tally
    walkBack next rest known tally

/-- The tally after a set that is read backward: a fork, its end, and a way out of the fork for each
byte sequence. -/
def backwardSet (runs : List Run) (tally : Tally) : Tally :=
  let target := tally.states + 1
  let sequences := runs.flatMap Utf8.sequences
  let (_, tally) := sequences.foldl
    (fun (known, tally) sequence => walkBack target sequence known tally)
    ((∅ : Shelf Arc), ⟨tally.states + 2, tally.extra⟩)
  ⟨tally.states, tally.extra + Tally.linkBytes * sequences.length⟩

/-! ## Both -/

/-- A set as part of a program.  One within ASCII is a state with an arc for each run, and an
end. -/
def addSet (direction : Direction) (runs : List Run) (tally : Tally) : Option Tally :=
  if runs.all fun run => run.2 < 128 then tally.add 2 (Tally.arcBytes * runs.length)
  else match direction with
    | .forward => (forwardSet runs tally).check
    | .backward => (backwardSet runs tally).check

end Placeholders.Pattern
