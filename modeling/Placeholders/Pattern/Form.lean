import Placeholders.Pattern.Term

/-!
# Normal forms

Two spellings of a pattern can differ in brackets, in empty pieces and in choices between single
characters.  The normal form of a term makes them equal: it joins characters that follow each other
to one literal, makes one set of a choice between sets, and takes what the branches of a choice
have in common at their start out of the choice.  A matching program is built from it.

* `Form` — a normal form.
* `Form.append`, `Form.choose`, `Form.ofBranches`, `Form.repeated` — forms from their parts.
* `Form.ofTerm` — the normal form of a term.
* `Form.isEmptyWidth`, `Form.minLength`, `Form.startsAt`, `Form.endsAt` — what is known about every
  match of a form.
-/

namespace Placeholders.Pattern

/-- A normal form.  Parts of a concatenation are neither empty nor concatenations, and no two
literals follow each other; branches of a choice are no choices. -/
inductive Form where
  | empty
  /-- these characters -/
  | literal (cs : List Char)
  /-- one character of the set with these runs -/
  | set (runs : List Run)
  | look (l : Look)
  | group (index : Nat) (f : Form)
  | loop (greedy : Bool) (least : Nat) (most : Option Nat) (f : Form)
  | concat (parts : List Form)
  | choice (branches : List Form)

namespace Form

/-! ## Equality -/

mutual

/-- Are two forms the same? -/
def same : Form → Form → Bool
  | .empty, .empty => true
  | .literal a, .literal b => a == b
  | .set a, .set b => a == b
  | .look a, .look b => a == b
  | .group i a, .group j b => i == j && same a b
  | .loop g l m a, .loop g' l' m' b => g == g' && l == l' && m == m' && same a b
  | .concat as, .concat bs => sameAll as bs
  | .choice as, .choice bs => sameAll as bs
  | _, _ => false

/-- Are two lists of forms the same? -/
def sameAll : List Form → List Form → Bool
  | [], [] => true
  | a :: as, b :: bs => same a b && sameAll as bs
  | _, _ => false

end

/-! ## Concatenation -/

/-- The parts of a concatenation. -/
def parts : Form → List Form
  | .empty => []
  | .concat parts => parts
  | f => [f]

/-- The form with these parts. -/
def ofParts : List Form → Form
  | [] => .empty
  | [f] => f
  | fs => .concat fs

/-- Joins literals that follow each other. -/
def joinLiterals : List Form → List Form
  | [] => []
  | f :: rest =>
    match f, joinLiterals rest with
    | .literal a, .literal b :: rest => .literal (a ++ b) :: rest
    | f, rest => f :: rest

/-- One form after the other. -/
def append (a b : Form) : Form := ofParts (joinLiterals (a.parts ++ b.parts))

/-! ## Sets and choices -/

/-- The form of a set.  A set of one character is a literal. -/
def ofSet (s : CharSet) : Form :=
  match s.toRuns with
  | [(first, last)] => if first = last then .literal [Char.ofNat first] else .set [(first, last)]
  | runs => .set runs

/-- The branches of a choice. -/
def branches : Form → List Form
  | .choice branches => branches
  | f => [f]

/-- The character of a literal that has no more. -/
def single? : Form → Option Char
  | .literal [c] => some c
  | _ => none

/-- The runs of a set. -/
def runs? : Form → Option (List Run)
  | .set runs => some runs
  | _ => none

/-- The choice between two or more branches: one set, if all of them are single characters or all
of them are sets. -/
def choose (fs : List Form) : Form :=
  match fs.mapM single? with
  | some cs => ofSet (.unions (cs.map .single))
  | none =>
    match fs.mapM runs? with
    | some sets => ofSet (.runs sets.flatten)
    | none => .choice fs

/-- How many parts two lists have in common at their start. -/
def shared : List Form → List Form → Nat
  | a :: as, b :: bs => if same a b then shared as bs + 1 else 0
  | _, _ => 0

/-- How many parts all of the branches have in common at their start.  Only concatenations have
parts to share. -/
def sharedByAll : List Form → Nat
  | .concat first :: rest =>
    rest.foldl (fun n f =>
      match f with
      | .concat parts => min n (shared first parts)
      | _ => 0) first.length
  | _ => 0

/-- The choice between branches.  Parts that all of them start with are taken out. -/
def ofBranches (fs : List Form) : Form :=
  match fs with
  | [] => .empty
  | [f] => f
  | fs =>
    let fs := fs.flatMap branches
    match choose fs with
    | .choice fs =>
      match sharedByAll fs with
      | 0 => .choice fs
      | n =>
        let first := (fs.head?.map parts).getD []
        let rests := fs.flatMap fun f => (ofParts (f.parts.drop n)).branches
        append (ofParts (first.take n)) (choose rests)
    | f => f

/-! ## Lengths -/

mutual

/-- Does every match have no width? -/
def isEmptyWidth : Form → Bool
  | .empty => true
  | .literal _ => false
  | .set _ => false
  | .look _ => true
  | .group _ f => isEmptyWidth f
  | .loop _ _ _ f => isEmptyWidth f
  | .concat fs => areEmptyWidth fs
  | .choice fs => areEmptyWidth fs

/-- Do all matches of all of the forms have no width? -/
def areEmptyWidth : List Form → Bool
  | [] => true
  | f :: rest => isEmptyWidth f && areEmptyWidth rest

end

mutual

/-- The least length of a match in characters.  Where an empty set stands in the way, none is
known. -/
def minLength : Form → Option Nat
  | .empty => some 0
  | .literal cs => some cs.length
  | .set runs => if runs.isEmpty then none else some 1
  | .look _ => some 0
  | .group _ f => minLength f
  | .loop _ least _ f => (minLength f).map (least * ·)
  | .concat fs => sumLength fs
  | .choice fs => leastLength fs

/-- The sum of the least lengths. -/
def sumLength : List Form → Option Nat
  | [] => some 0
  | f :: rest => do
    let n ← minLength f
    let m ← sumLength rest
    pure (n + m)

/-- The least of the least lengths. -/
def leastLength : List Form → Option Nat
  | [] => none
  | [f] => minLength f
  | f :: rest => do
    let n ← minLength f
    let m ← leastLength rest
    pure (min n m)

end

/-! ## Anchors -/

mutual

/-- Does every match start with the assertion, as far as can be seen? -/
def startsAt (l : Look) : Form → Bool
  | .look k => k == l
  | .group _ f => startsAt l f
  | .loop _ least _ f => least != 0 && startsAt l f
  | .concat fs => anyStartsAt l fs
  | .choice fs => allStartAt l fs
  | _ => false

/-- Does a concatenation start with the assertion?  It may follow parts of no width. -/
def anyStartsAt (l : Look) : List Form → Bool
  | [] => false
  | f :: rest => startsAt l f || (isEmptyWidth f && anyStartsAt l rest)

/-- Do all branches start with the assertion? -/
def allStartAt (l : Look) : List Form → Bool
  | [] => true
  | f :: rest => startsAt l f && allStartAt l rest

end

mutual

/-- Does every match end with the assertion, as far as can be seen? -/
def endsAt (l : Look) : Form → Bool
  | .look k => k == l
  | .group _ f => endsAt l f
  | .loop _ least _ f => least != 0 && endsAt l f
  | .concat fs => anyEndsAt l fs
  | .choice fs => allEndAt l fs
  | _ => false

/-- Does a concatenation end with the assertion?  It may precede parts of no width. -/
def anyEndsAt (l : Look) : List Form → Bool
  | [] => false
  | f :: rest => anyEndsAt l rest || (areEmptyWidth rest && endsAt l f)

/-- Do all branches end with the assertion? -/
def allEndAt (l : Look) : List Form → Bool
  | [] => true
  | f :: rest => endsAt l f && allEndAt l rest

end

/-! ## From terms -/

/-- A form repeated.  One of no width gains nothing from a second round, and one round is the form
itself. -/
def repeated (greedy : Bool) (least : Nat) (most : Option Nat) (f : Form) : Form :=
  let least := if f.isEmptyWidth then min least 1 else least
  let most := if f.isEmptyWidth then some (min (most.getD 1) 1) else most
  match least, most with
  | 0, some 0 => .empty
  | 1, some 1 => f
  | least, most => .loop greedy least most f

/-- The normal forms of the branches of a term. -/
def ofChain : Term → List Form
  | .empty => [.empty]
  | .one s => [ofSet s]
  | .look l => [.look l]
  | .group index t => [.group index (ofBranches (ofChain t))]
  | .bracket t => [ofBranches (ofChain t)]
  | .cat a b => [append (ofBranches (ofChain a)) (ofBranches (ofChain b))]
  | .alt a b => ofChain a ++ ofChain b
  | .repeated greedy least most t => [repeated greedy least most (ofBranches (ofChain t))]

/-- The normal form of a term. -/
def ofTerm (t : Term) : Form := ofBranches (ofChain t)

end Form

end Placeholders.Pattern
