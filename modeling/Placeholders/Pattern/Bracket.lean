import Placeholders.Pattern.Atom

/-!
# Bracketed classes

A class is a list of characters, ranges and smaller classes, whose union it is; `&&`, `--` and `~~`
combine such unions from left to right, and a leading `^` complements the whole.

* `Nested` — a value together with how deeply the pattern nests inside it.
* `ClassLevel` — an open bracket.
* `readClass` — reads a class after its opening bracket.
-/

namespace Placeholders.Pattern

/-- A value read from a pattern, and how deeply the pattern nests inside it. -/
structure Nested (α : Type) where
  value : α
  depth : Nat

/-- The operators between unions. -/
inductive ClassOp where
  | inter
  | diff
  | symmDiff

/-- The set that an operator makes. -/
def ClassOp.apply : ClassOp → CharSet → CharSet → CharSet
  | .inter => .inter
  | .diff => .diff
  | .symmDiff => .symmDiff

/-- An open bracket: is it negated, what stands to the left of an operator, and the items since,
last first. -/
structure ClassLevel where
  negated : Bool
  left : Option (ClassOp × Nested CharSet)
  items : List (Nested CharSet)

namespace ClassLevel

/-- The union of the items.  Two or more of them nest one level deeper. -/
def union (level : ClassLevel) : Nested CharSet :=
  match level.items with
  | [] => ⟨.none, 0⟩
  | [item] => item
  | items => ⟨.unions (items.reverse.map (·.value)), items.foldl (fun d i => max d i.depth) 0 + 1⟩

/-- The set so far: the operator, if there is one, applied to both sides closed under case. -/
def value (flags : Flags) (level : ClassLevel) : Nested CharSet :=
  match level.left with
  | none => level.union
  | some (op, l) =>
    let r := level.union
    ⟨op.apply (flags.fold l.value) (flags.fold r.value), max l.depth r.depth + 1⟩

/-- One more item. -/
def push (level : ClassLevel) (set : CharSet) (depth : Nat) : ClassLevel :=
  { level with items := ⟨set, depth⟩ :: level.items }

/-- An operator: what was read becomes its left side. -/
def operator (flags : Flags) (level : ClassLevel) (op : ClassOp) : ClassLevel :=
  { level with left := some (op, level.value flags), items := [] }

end ClassLevel

/-! ## Items -/

/-- A character of a class.  Within single bytes it has to be ASCII. -/
def classChar? (flags : Flags) (c : Char) : Option Char :=
  if flags.wide ∨ c.toNat < 128 then some c else none

/-- Reads one item: an escape or a character. -/
def readClassAtom (flags : Flags) : List Char → Option (Atom × List Char)
  | [] => none
  | '\\' :: rest => readEscape flags rest
  | c :: rest => some (.char c false, rest)

/-- The set of an item that is no end of a range. -/
def Atom.classSet? (flags : Flags) : Atom → Option CharSet
  | .char c _ => (classChar? flags c).map .single
  | .set s => some s
  | .look _ => none

/-- The character of an item that is an end of a range. -/
def Atom.char? (flags : Flags) : Atom → Option Char
  | .char c _ => classChar? flags c
  | _ => none

/-- The character that decides about a hyphen in front of it.  In free layout blanks are passed
over, and so is the sign of a comment, but not the comment itself. -/
def glance (flags : Flags) (cs : List Char) : Option Char :=
  if flags.freeLayout then
    match cs.dropWhile isWhiteSpace with
    | '#' :: rest => (rest.dropWhile isWhiteSpace).head?
    | cs => cs.head?
  else cs.head?

/-- Reads a character, a range or a class escape.  A hyphen makes a range unless a closing bracket
or another hyphen follows. -/
def readClassItem (flags : Flags) (cs : List Char) : Option (CharSet × List Char) := do
  let (first, cs) ← readClassAtom flags cs
  match flags.skip cs with
  | [] => none
  | c :: rest =>
    let next := glance flags rest
    if c ≠ '-' ∨ next = some ']' ∨ next = some '-' then
      (first.classSet? flags).map (·, c :: rest)
    else do
      let (last, rest) ← readClassAtom flags (flags.skip rest)
      let a ← first.char? flags
      let b ← last.char? flags
      if a ≤ b then pure (.range a b, rest) else none

/-- The sets of the classes that have names between colons.  They are ASCII under all flags. -/
def posixClass? (name : String) : Option CharSet :=
  match name with
  | "alnum" => some (.unions [.range '0' '9', .range 'A' 'Z', .range 'a' 'z'])
  | "alpha" => some (.unions [.range 'A' 'Z', .range 'a' 'z'])
  | "ascii" => some (.range '\x00' '\x7f')
  | "blank" => some (.unions [.single '\t', .single ' '])
  | "cntrl" => some (.unions [.range '\x00' '\x1f', .single '\x7f'])
  | "digit" => some (.range '0' '9')
  | "graph" => some (.range '!' '~')
  | "lower" => some (.range 'a' 'z')
  | "print" => some (.range ' ' '~')
  | "punct" =>
    some (.unions [.range '!' '/', .range ':' '@', .range '[' '\x60', .range '\x7b' '~'])
  | "space" => some (.unions [.range '\t' '\r', .single ' '])
  | "upper" => some (.range 'A' 'Z')
  | "word" => some (.unions [.range '0' '9', .range 'A' 'Z', .single '_', .range 'a' 'z'])
  | "xdigit" => some (.unions [.range '0' '9', .range 'A' 'F', .range 'a' 'f'])
  | _ => none

/-- Reads a class named between colons after its opening bracket: name, whether it is negated, and
the rest.  If this is no such class, the bracket opens an ordinary one. -/
def readPosix : List Char → Option (CharSet × Bool × List Char)
  | ':' :: rest =>
    let (negated, rest) := match rest with
      | '^' :: r => (true, r)
      | r => (false, r)
    match rest.dropWhile (· != ':') with
    | ':' :: ']' :: after =>
      (posixClass? (String.ofList (rest.takeWhile (· != ':')))).map (·, negated, after)
    | _ => none
  | _ => none

/-! ## Levels -/

/-- Hyphens right after the opening are ordinary characters. -/
def readLeadingHyphens (flags : Flags) :
    Nat → ClassLevel → List Char → ClassLevel × List Char
  | fuel + 1, level, '-' :: rest =>
    readLeadingHyphens flags fuel (level.push (.single '-') 0) (flags.skip rest)
  | _, level, cs => (level, cs)

/-- Reads the opening of a class after its bracket: the negation, hyphens, and a closing bracket
that comes first, which is an ordinary character. -/
def openClass (flags : Flags) (cs : List Char) : Option (ClassLevel × List Char) :=
  let cs := flags.skip cs
  let (negated, cs) := match cs with
    | '^' :: rest => (true, flags.skip rest)
    | cs => (false, cs)
  let (level, cs) := readLeadingHyphens flags cs.length ⟨negated, none, []⟩ cs
  match cs with
  | [] => none
  | ']' :: rest =>
    if level.items.isEmpty then some (level.push (.single ']') 0, flags.skip rest)
    else some (level, cs)
  | cs => some (level, cs)

/-- Reads on inside a class.  `outer` are the brackets around the open one, innermost first.  Each
round takes a character. -/
def readLevels (flags : Flags) :
    Nat → ClassLevel → List ClassLevel → List Char → Option (Nested CharSet × List Char)
  | 0, _, _, _ => none
  | fuel + 1, level, outer, cs =>
    match flags.skip cs with
    | [] => none
    | '[' :: rest =>
      match readPosix rest with
      | some (set, negated, rest) => do
        let set ← flags.close negated set
        readLevels flags fuel (level.push set 0) outer rest
      | none => do
        let (inner, rest) ← openClass flags rest
        readLevels flags fuel inner (level :: outer) rest
    | ']' :: rest => do
      let inner := level.value flags
      let set ← flags.close level.negated inner.value
      match outer with
      | [] => pure (⟨set, inner.depth + 1⟩, rest)
      | level :: outer => readLevels flags fuel (level.push set (inner.depth + 1)) outer rest
    | '&' :: '&' :: rest => readLevels flags fuel (level.operator flags .inter) outer rest
    | '-' :: '-' :: rest => readLevels flags fuel (level.operator flags .diff) outer rest
    | '~' :: '~' :: rest => readLevels flags fuel (level.operator flags .symmDiff) outer rest
    | cs => do
      let (set, rest) ← readClassItem flags cs
      readLevels flags fuel (level.push set 0) outer rest

/-- Reads a class after its opening bracket. -/
def readClass (flags : Flags) (cs : List Char) : Option (Nested CharSet × List Char) := do
  let (level, rest) ← openClass flags cs
  readLevels flags (cs.length + 1) level [] rest

end Placeholders.Pattern
