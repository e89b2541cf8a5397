import Placeholders.Text.Utf8

/-!
# The size of a matching program

A pattern is matched byte by byte, by a program whose states lead to each other.  Programs are
limited in size, so a pattern has to be small enough; here is what counts.

* `Tally` — the size of a program so far.
* `Tally.add`, `Tally.link` — a program that grows; it may become too large.
-/

namespace Placeholders.Pattern

/-- The size of a program so far: its states, which are numbered from zero, and the bytes that they
take beyond their own size. -/
structure Tally where
  states : Nat := 0
  extra : Nat := 0

namespace Tally

/-- The bytes of a state. -/
def stateBytes : Nat := 32

/-- The bytes of an arc that a state keeps in a table. -/
def arcBytes : Nat := 8

/-- The bytes of a way out of a fork. -/
def linkBytes : Nat := 4

/-- The largest size of a program: ten mebibytes. -/
def limit : Nat := 10 * Nat.pow 2 20

/-- The size in bytes. -/
def bytes (t : Tally) : Nat := stateBytes * t.states + t.extra

/-- The tally, unless it is above the limit. -/
def check (t : Tally) : Option Tally := if t.bytes ≤ limit then some t else none

/-- More states, and more bytes. -/
def add (t : Tally) (states extra : Nat) : Option Tally :=
  check ⟨t.states + states, t.extra + extra⟩

/-- More ways out of forks. -/
def links (t : Tally) (n : Nat) : Option Tally := t.add 0 (linkBytes * n)

/-- A way out of the end of a part, if the part ends in a fork.  Other states have room for it. -/
def link (t : Tally) (fork : Bool) : Option Tally := if fork then t.links 1 else some t

end Tally

/-- The direction in which a program reads. -/
inductive Direction where
  | forward
  | backward
  deriving DecidableEq

end Placeholders.Pattern
