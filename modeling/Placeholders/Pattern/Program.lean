import Placeholders.Pattern.Form
import Placeholders.Pattern.Program.Bytes
import Placeholders.Pattern.Program.Words

/-!
# Matching programs

A pattern is matched by two programs: one reads forward to find the end of a match, one reads
backward to find its start.  Both are built from the normal form of the pattern, part by part, and
both have to be small enough.

* `addForm` — a form as part of a program.
* `program?` — the size of a program, if it is not too large.
* `Term.bound` — a bound on the size that is easy to see.
* `Term.fits` — are the programs of a pattern small enough?
-/

namespace Placeholders.Pattern

/-! ## Repetition -/

/-- `n` copies in a row, after a part that ends in a fork or not. -/
def addCopies (copy : Tally → Option (Tally × Bool)) :
    Nat → Tally → Bool → Option (Tally × Bool)
  | 0, tally, fork => some (tally, fork)
  | n + 1, tally, fork => do
    let (tally, fork') ← copy tally
    let tally ← tally.link fork
    addCopies copy n tally fork'

/-- At most `n` copies in a row; a fork before each leads into it or to the end. -/
def addOptional (copy : Tally → Option (Tally × Bool)) :
    Nat → Tally → Bool → Option (Tally × Bool)
  | 0, tally, fork => some (tally, fork)
  | n + 1, tally, fork => do
    let tally ← tally.add 1 (Tally.linkBytes * 2)
    let (tally, fork') ← copy tally
    let tally ← tally.link fork
    addOptional copy n tally fork'

/-- Exactly `n` copies.  None at all are a state that goes on. -/
def addExactly (copy : Tally → Option (Tally × Bool)) (n : Nat) (tally : Tally) :
    Option (Tally × Bool) :=
  if n = 0 then (tally.add 1 0).map (·, false) else addCopies copy n tally false

/-- A loop without end.  One that may be left out is simpler if every round takes a character;
otherwise it is an optional loop of one round or more. -/
def addLoop (copy : Tally → Option (Tally × Bool)) (takesSome : Bool) (least : Nat)
    (tally : Tally) : Option (Tally × Bool) := do
  if least = 0 then
    if takesSome then
      let tally ← tally.add 1 0
      let (tally, fork) ← copy tally
      let tally ← tally.links 1
      let tally ← tally.link fork
      pure (tally, true)
    else
      let (tally, fork) ← copy tally
      let tally ← tally.link fork
      let tally ← tally.add 3 (Tally.linkBytes * 4)
      pure (tally, false)
  else
    let (tally, fork) ← addCopies copy least tally false
    let tally ← tally.link fork
    let tally ← tally.add 1 Tally.linkBytes
    pure (tally, true)

/-- A repetition. -/
def addRepeated (copy : Tally → Option (Tally × Bool)) (takesSome : Bool) (least : Nat)
    (most : Option Nat) (tally : Tally) : Option (Tally × Bool) :=
  match most with
  | none => addLoop copy takesSome least tally
  | some most =>
    if most = least then addExactly copy least tally
    else if least = 0 ∧ most = 1 then do
      let tally ← tally.add 1 (Tally.linkBytes * 2)
      let (tally, fork) ← copy tally
      let tally ← tally.link fork
      let tally ← tally.add 1 0
      pure (tally, false)
    else do
      let (tally, fork) ← addExactly copy least tally
      let tally ← tally.add 1 0
      let (tally, fork) ← addOptional copy (most - least) tally fork
      let tally ← tally.link fork
      pure (tally, false)

/-! ## Forms -/

/-- The characters of a literal. -/
def Form.word? : Form → Option (List Char)
  | .literal cs => some cs
  | _ => none

mutual

/-- A form as part of a program, and whether it ends in a fork. -/
def addForm (direction : Direction) : Form → Tally → Option (Tally × Bool)
  | .empty, tally => (tally.add 1 0).map (·, false)
  | .literal cs, tally => (tally.add (String.ofList cs).utf8ByteSize 0).map (·, false)
  | .set runs, tally => (addSet direction runs tally).map (·, false)
  | .look _, tally => (tally.add 1 0).map (·, false)
  | .group _ f, tally =>
    match direction with
    | .backward => addForm direction f tally
    | .forward => do
      let tally ← tally.add 1 0
      let (tally, fork) ← addForm direction f tally
      let tally ← tally.link fork
      let tally ← tally.add 1 0
      pure (tally, false)
  | .loop _ least most f, tally =>
    let takesSome := match f.minLength with
      | some n => n != 0
      | none => false
    addRepeated (addForm direction f) takesSome least most tally
  | .concat fs, tally =>
    match direction with
    | .forward => addForward fs tally false
    | .backward => addBackward fs tally
  | .choice fs, tally =>
    match fs.mapM Form.word? with
    | some words => (addWords direction words tally).map (·, false)
    | none => (addBranches direction fs 0 tally).map (·, false)

/-- Parts from the first to the last, after a part that ends in a fork or not. -/
def addForward : List Form → Tally → Bool → Option (Tally × Bool)
  | [], tally, fork => some (tally, fork)
  | f :: rest, tally, fork => do
    let (tally, fork') ← addForm .forward f tally
    let tally ← tally.link fork
    addForward rest tally fork'

/-- Parts from the last to the first. -/
def addBackward : List Form → Tally → Option (Tally × Bool)
  | [], tally => some (tally, false)
  | f :: rest, tally => do
    let (tally, fork) ← addBackward rest tally
    let (tally, fork') ← addForm .backward f tally
    let tally ← tally.link fork
    pure (tally, fork')

/-- The branches of a choice, after `n` others.  The fork and the end of the choice come after the
second branch. -/
def addBranches (direction : Direction) : List Form → (n : Nat) → Tally → Option Tally
  | [], _, tally => some tally
  | f :: rest, n, tally => do
    let (tally, fork) ← addForm direction f tally
    let tally ← tally.links 1
    let tally ← tally.link fork
    let tally ← if n = 1 then tally.add 2 0 else some tally
    addBranches direction rest (n + 1) tally

end

/-! ## Programs -/

/-- The size of the program of a form, if it is not too large.  The program starts with a loop over
any bytes, unless the form is tied to the end of the text where reading starts; a program that
reads forward marks the start and end of the match. -/
def program? (direction : Direction) (f : Form) : Option Tally := do
  let tied := match direction with
    | .forward => f.startsAt .start
    | .backward => f.endsAt .stop
  let tally : Tally := {}
  let tally ← if tied then tally.add 1 0
    else tally.add 3 (Tally.arcBytes + Tally.linkBytes * 2)
  let (tally, fork) ← addForm direction (.group 0 f) tally
  let tally ← tally.link fork
  tally.add 1 0

/-- From how many branches on a choice between words is looked up as a dictionary, for which there
is no limit. -/
def dictionarySize : Nat := 3000

/-- Is the form a dictionary? -/
def Form.isDictionary : Form → Bool
  | .choice fs => dictionarySize ≤ fs.length && (fs.mapM Form.word?).isSome
  | _ => false

/-! ## Limits -/

namespace Term

/-- More bytes than a set takes.  A run has no more than seven byte sequences, and there are a few
more where the length of characters changes; a sequence takes no more than four states. -/
def setBound : CharSet → Nat
  | .single _ => 500
  | s => 600 * s.edges.length + 6000

/-- More bytes than a term takes in a program, found without building it. -/
def bound : Term → Nat
  | .empty => 50
  | .one s => setBound s
  | .look _ => 50
  | .group _ t => t.bound + 100
  | .bracket t => t.bound
  | .cat a b => a.bound + b.bound + 10
  | .alt a b => a.bound + b.bound + 200
  | .repeated _ least most t => max 1 (most.getD least) * (t.bound + 100) + 200

/-- Are the programs of a pattern small enough?  Nearly always the bound tells that they are. -/
def fits (t : Term) : Bool :=
  t.bound + 500 ≤ Tally.limit ||
    let f := Form.ofTerm t
    f.isDictionary || ((program? .forward f).isSome && (program? .backward f).isSome)

end Term

end Placeholders.Pattern
