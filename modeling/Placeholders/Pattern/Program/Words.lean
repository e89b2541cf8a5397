import Placeholders.Pattern.Program.Tally

/-!
# Programs for choices between words

A choice between literals becomes a tree in which words share their beginnings.  Where a word ends
inside of another, the arcs of the words before it and of those after it are kept apart, since the
order of the branches counts.

* `wordGroups` — the words at a node, parted where a word ends.
* `addWords` — a choice between words as part of a program.
-/

namespace Placeholders.Pattern

/-- The words at a node, in groups: each end of a word begins a new one.  As long as no word goes
on, a second end adds nothing.  `done` are the groups before the present one. -/
def wordGroups (done : List (List (List UInt8))) (group : List (List UInt8)) :
    List (List UInt8) → List (List (List UInt8))
  | [] => done ++ [group]
  | [] :: rest =>
    if !done.isEmpty && (done ++ [group]).all List.isEmpty then wordGroups done group rest
    else wordGroups (done ++ [group]) [] rest
  | word :: rest => wordGroups done (group ++ [word]) rest

/-- What is left of the words that begin with a byte. -/
def tailsAfter (byte : UInt8) (words : List (List UInt8)) : List (List UInt8) :=
  words.filterMap fun word =>
    match word with
    | b :: rest => if b = byte then some rest else none
    | [] => none

/-- The states below a node and the bytes that they take beyond their own size: a fork, a state for
each group that has words, a way out of the fork for it, and one for each end.  A byte after which
all words end leads to the end of the choice.  Words are no longer than the fuel. -/
def nodeSize : (fuel : Nat) → List (List UInt8) → Tally
  | 0, _ => {}
  | fuel + 1, words =>
    let groups := wordGroups [] [] words
    let ends := groups.length - 1
    groups.foldl
      (fun tally group =>
        let bytes := (group.filterMap List.head?).eraseDups
        let arcs := if bytes.length = 1 then 0 else Tally.arcBytes * bytes.length
        let own : Tally := if bytes.isEmpty then {} else ⟨1, arcs + Tally.linkBytes⟩
        bytes.foldl
          (fun tally byte =>
            let tails := tailsAfter byte group
            let below := if tails.all List.isEmpty then {} else nodeSize fuel tails
            ⟨tally.states + below.states, tally.extra + below.extra⟩)
          ⟨tally.states + own.states, tally.extra + own.extra⟩)
      ⟨1, Tally.linkBytes * ends⟩

/-- The bytes of a word in the order in which they are read. -/
def wordBytes (direction : Direction) (word : List Char) : List UInt8 :=
  let bytes := (String.ofList word).toUTF8.toList
  match direction with
  | .forward => bytes
  | .backward => bytes.reverse

/-- A choice between words as part of a program. -/
def addWords (direction : Direction) (words : List (List Char)) (tally : Tally) :
    Option Tally :=
  let words := words.map (wordBytes direction)
  let fuel := (words.map List.length).foldl max 0 + 1
  let size := nodeSize fuel words
  tally.add (size.states + 1) size.extra

end Placeholders.Pattern
