import Placeholders.Pattern.Bracket
import Placeholders.Pattern.Term
import Placeholders.Text.Newest

/-!
# Reading patterns

A pattern is read piece by piece, from left to right.  Open groups are kept on a stack, so the
reader is a loop and every round takes at least one character.

* `Piece` — a piece of a concatenation.
* `Reading` — what was read so far.
* `step` — reads one piece, operator or bracket.
* `read?` — the term of a pattern, if it is one and does not nest too deeply.
-/

namespace Placeholders.Pattern

/-- A piece of a concatenation.  A flag directive takes a place among the pieces, but there is
nothing in it that could be repeated. -/
inductive Piece where
  | directive
  | term (t : Nested Term)

/-- The term of a piece. -/
def Piece.toTerm : Piece → Term
  | .directive => .empty
  | .term t => t.value

/-- How deeply a piece nests. -/
def Piece.depth : Piece → Nat
  | .directive => 0
  | .term t => t.depth

/-- The concatenation of pieces that are listed last first.  Two or more of them nest one level
deeper. -/
def joinPieces (pieces : List Piece) : Nested Term :=
  match pieces with
  | [] => ⟨.empty, 0⟩
  | [p] => ⟨p.toTerm, p.depth⟩
  | ps =>
    ⟨Term.concat (ps.reverse.map Piece.toTerm), ps.foldl (fun d p => max d p.depth) 0 + 1⟩

/-- An open group: what was read around it, the flags to go back to, and the index of the group if
it captures. -/
structure OpenGroup where
  pieces : List Piece
  branches : List (Nested Term)
  flags : Flags
  capture : Option Nat

/-- What was read so far: the pieces of the current branch and the branches before it, last first,
the open groups, innermost first, and the groups and names in use. -/
structure Reading where
  flags : Flags := {}
  pieces : List Piece := []
  branches : List (Nested Term) := []
  outer : List OpenGroup := []
  captures : Nat := 0
  names : List (List Char) := []

namespace Reading

/-- One more piece. -/
def push (r : Reading) (t : Term) (depth : Nat) : Reading :=
  { r with pieces := .term ⟨t, depth⟩ :: r.pieces }

/-- The branches of the current group as one term.  A choice nests one level deeper. -/
def body (r : Reading) : Nested Term :=
  let last := joinPieces r.pieces
  match r.branches with
  | [] => last
  | branches =>
    let all := (last :: branches).reverse
    ⟨Term.choice (all.map (·.value)), all.foldl (fun d t => max d t.depth) 0 + 1⟩

/-! ## Characters and repetition -/

/-- A character under the current flags. -/
def pushChar (r : Reading) (c : Char) : Reading :=
  r.push (.one (r.flags.char c)) 0

/-- An escape under the current flags.  Within single bytes a byte has to be ASCII. -/
def pushAtom (r : Reading) : Atom → Option Reading
  | .char c byte => if byte ∧ ¬r.flags.wide ∧ 128 ≤ c.toNat then none else some (r.pushChar c)
  | .set s => some (r.push (.one s) 0)
  | .look l => some (r.push (.look l) 0)

/-- Repeats the last piece. -/
def repeatLast (r : Reading) (least : Nat) (most : Option Nat) (greedy : Bool) :
    Option Reading :=
  match r.pieces with
  | .term t :: pieces =>
    let t : Nested Term :=
      ⟨.repeated (greedy != r.flags.swapGreed) least most t.value, t.depth + 1⟩
    some { r with pieces := .term t :: pieces }
  | _ => none

/-! ## Groups -/

/-- Opens a group that is read under the given flags. -/
def openGroup (r : Reading) (flags : Flags) (capture : Option Nat) : Reading :=
  { r with
    pieces := [], branches := [], flags := flags
    outer := ⟨r.pieces, r.branches, r.flags, capture⟩ :: r.outer }

/-- Opens a capture group. -/
def openCapture (r : Reading) : Reading :=
  { r with captures := r.captures + 1 }.openGroup r.flags (some (r.captures + 1))

/-- Closes the innermost group. -/
def closeGroup (r : Reading) : Option Reading :=
  match r.outer with
  | [] => none
  | group :: outer =>
    let body := r.body
    let t := match group.capture with
      | some i => Term.group i body.value
      | none => .bracket body.value
    some
      { r with
        flags := group.flags, pieces := .term ⟨t, body.depth + 1⟩ :: group.pieces
        branches := group.branches, outer := outer }

/-- Begins a new branch of the current group. -/
def nextBranch (r : Reading) : Reading :=
  { r with pieces := [], branches := joinPieces r.pieces :: r.branches }

end Reading

/-! ## Repetition counts -/

/-- The largest count. -/
def maxCount : Nat := Nat.pow 2 32 - 1

/-- Reads the digits of a count.  Blanks may stand around them in any layout. -/
def readCountDigits (flags : Flags) :
    Nat → Option Nat → List Char → Option Nat × List Char
  | fuel + 1, value, c :: rest =>
    match decimalDigit? c with
    | some d => readCountDigits flags fuel (some (value.getD 0 * 10 + d)) (flags.skip rest)
    | none => (value, c :: rest)
  | _, value, cs => (value, cs)

/-- Reads a count: `some` on the left if there is one. -/
def readCount (flags : Flags) (cs : List Char) : Option Nat × List Char :=
  let (value, cs) := readCountDigits flags (cs.length + 1) none (cs.dropWhile isWhiteSpace)
  (value.filter (· ≤ maxCount), flags.skip (cs.dropWhile isWhiteSpace))

/-- A question mark after an operator makes it lazy. -/
def readLazy : List Char → Bool × List Char
  | '?' :: rest => (false, rest)
  | cs => (true, cs)

/-- Reads a counted repetition after its opening brace. -/
def readCounted (r : Reading) (cs : List Char) : Option (Reading × List Char) := do
  let (least, cs) := readCount r.flags (r.flags.skip cs)
  let least ← least
  let (most, cs) ← match cs with
    | ',' :: rest =>
      match r.flags.skip rest with
      | '\x7d' :: rest => some (none, '\x7d' :: rest)
      | rest =>
        let (most, cs) := readCount r.flags rest
        most.map fun m => (some m, cs)
    | cs => some (some least, cs)
  match cs with
  | '\x7d' :: rest =>
    let (greedy, rest) := readLazy (r.flags.skip rest)
    if (most.getD least) < least then none
    else do
      let r ← r.repeatLast least most greedy
      pure (r, rest)
  | _ => none

/-- Reads an uncounted repetition after its operator. -/
def readUncounted (r : Reading) (least : Nat) (most : Option Nat) (cs : List Char) :
    Option (Reading × List Char) := do
  let (greedy, rest) := readLazy cs
  let r ← r.repeatLast least most greedy
  pure (r, rest)

/-! ## Group openings -/

/-- Characters of a group name. -/
def isNameChar (first : Bool) (c : Char) : Bool :=
  if first then c == '_' || isAlphabetic c
  else c == '_' || c == '.' || c == '[' || c == ']' || isAlphanumeric c

/-- Splits off a group name up to its closing bracket. -/
def readName? (cs : List Char) : Option (List Char × List Char) :=
  let name := cs.takeWhile (· != '>')
  match name, cs.dropWhile (· != '>') with
  | first :: more, _ :: rest =>
    if isNameChar true first && more.all (isNameChar false) then some (name, rest) else none
  | _, _ => none

/-- Opens a named group after the bracket before its name.  Names are unique. -/
def readNamed (r : Reading) (cs : List Char) : Option (Reading × List Char) := do
  let (name, rest) ← readName? cs
  if r.names.contains name then none
  else pure ({ r with names := name :: r.names }.openCapture, rest)

/-- Reads flags after a question mark: a directive, or the opening of a group that does not
capture.  A directive without flags is a question mark with nothing to repeat. -/
def readFlagged (r : Reading) (cs : List Char) : Option (Reading × List Char) := do
  let listed ← r.flags.read? [] cs
  if listed.mark = ':' then pure (r.openGroup listed.flags none, listed.rest)
  else if listed.isEmpty then none
  else pure ({ r with flags := listed.flags, pieces := .directive :: r.pieces }, listed.rest)

/-- Reads the opening of a group after its bracket.  Assertions about what comes before or after do
not exist. -/
def readGroup (r : Reading) (cs : List Char) : Option (Reading × List Char) :=
  match r.flags.skip cs with
  | '?' :: '=' :: _ | '?' :: '!' :: _ | '?' :: '<' :: '=' :: _ | '?' :: '<' :: '!' :: _ => none
  | '?' :: 'P' :: '<' :: rest => readNamed r rest
  | '?' :: '<' :: rest => readNamed r rest
  | '?' :: rest => readFlagged r rest
  | cs => some (r.openCapture, cs)

/-! ## The loop -/

/-- Reads what begins with the character `c`. -/
def step (r : Reading) (c : Char) (rest : List Char) : Option (Reading × List Char) :=
  match c with
  | '(' => readGroup r rest
  | ')' => r.closeGroup.map (·, rest)
  | '|' => some (r.nextBranch, rest)
  | '[' => (readClass r.flags rest).map fun (set, rest) => (r.push (.one set.value) set.depth, rest)
  | '?' => readUncounted r 0 (some 1) rest
  | '*' => readUncounted r 0 none rest
  | '+' => readUncounted r 1 none rest
  | '\x7b' => readCounted r rest
  | '\\' => do
    let (atom, rest) ← readEscape r.flags rest
    let r ← r.pushAtom atom
    pure (r, rest)
  | '.' => r.flags.dot.map fun set => (r.push (.one set) 0, rest)
  | '^' => some (r.push (.look r.flags.lineStart) 0, rest)
  | '$' => some (r.push (.look r.flags.lineStop) 0, rest)
  | c => some (r.pushChar c, rest)

/-- Reads to the end of the text, which is no longer than the fuel. -/
def readFrom : Nat → Reading → List Char → Option Reading
  | 0, _, _ => none
  | fuel + 1, r, cs =>
    match r.flags.skip cs with
    | [] => some r
    | c :: rest =>
      match step r c rest with
      | some (r, rest) => readFrom fuel r rest
      | none => none

/-- How deeply groups, classes, repetitions, choices and concatenations may nest. -/
def maxNesting : Nat := 250

/-- The term of a pattern. -/
def read? (cs : List Char) : Option Term :=
  match readFrom (cs.length + 1) {} cs with
  | none => none
  | some r =>
    let body := r.body
    if r.outer.isEmpty ∧ body.depth ≤ maxNesting then some body.value else none

end Placeholders.Pattern
