import Placeholders.Pattern.Look
import Placeholders.Text.Gap

/-!
# Flags

* `Flags` — the switches under which a piece of a pattern is read.
* `Flags.skip` — dropping the blanks and comments that a pattern in free layout may hold.
* `Flags.close` — what flags do to a finished set of characters: closure under case, then
  complement.
* `Flags.dot`, `Flags.lineStart`, `Flags.lineStop` — what depends on how lines end.
* `Flags.read?` — the flags of a group or a directive.
-/

namespace Placeholders.Pattern

/-- The switches of a pattern. -/
structure Flags where
  /-- letters stand for all their case variants -/
  ignoreCase : Bool := false
  /-- `^` and `$` match at every line -/
  multiLine : Bool := false
  /-- `.` matches line ends too -/
  dotAll : Bool := false
  /-- greedy and lazy change places -/
  swapGreed : Bool := false
  /-- classes are those of all characters and not of ASCII -/
  wide : Bool := true
  /-- a line may end with carriage return and line feed -/
  carriageReturn : Bool := false
  /-- blanks and comments are skipped -/
  freeLayout : Bool := false
  deriving DecidableEq

/-- Drops white space and comments; a comment runs from `#` to the end of the line. -/
def skipLayout (inComment : Bool) : List Char → List Char
  | [] => []
  | c :: rest =>
    if inComment then skipLayout (c != '\n') rest
    else if isWhiteSpace c then skipLayout false rest
    else if c = '#' then skipLayout true rest
    else c :: rest

namespace Flags

/-- Drops what free layout allows between the pieces of a pattern. -/
def skip (flags : Flags) (cs : List Char) : List Char :=
  if flags.freeLayout then skipLayout false cs else cs

/-- Closure under case, where letters stand for their variants. -/
def fold (flags : Flags) (set : CharSet) : CharSet :=
  if flags.ignoreCase then .folded (!flags.wide) set else set

/-- The set of a character.  Where letters stand for their variants, it holds all of them. -/
def char (flags : Flags) (c : Char) : CharSet :=
  if !flags.ignoreCase then .single c
  else .unions ((if flags.wide then Case.variants c else Case.asciiVariants c).map .single)

/-- A finished set: closed under case, then complemented if negated.  A complement within single
bytes would hold bytes that are no characters, so there is none. -/
def close (flags : Flags) (negated : Bool) (set : CharSet) : Option CharSet :=
  if negated then if flags.wide then some (flags.fold set).between else none
  else some (flags.fold set)

/-- The set of `.`.  It has none within single bytes. -/
def dot (flags : Flags) : Option CharSet :=
  if !flags.wide then none
  else if flags.dotAll then some (.compl .none)
  else if flags.carriageReturn then some (.compl (.union (.single '\r') (.single '\n')))
  else some (.compl (.single '\n'))

/-- The assertion `^`. -/
def lineStart (flags : Flags) : Look :=
  if !flags.multiLine then .start
  else if flags.carriageReturn then .anyLineStart else .lineStart

/-- The assertion `$`. -/
def lineStop (flags : Flags) : Look :=
  if !flags.multiLine then .stop
  else if flags.carriageReturn then .anyLineStop else .lineStop

/-- The flags with one switch set. -/
def set? (flags : Flags) (switch : Char) (on : Bool) : Option Flags :=
  match switch with
  | 'i' => some { flags with ignoreCase := on }
  | 'm' => some { flags with multiLine := on }
  | 's' => some { flags with dotAll := on }
  | 'U' => some { flags with swapGreed := on }
  | 'u' => some { flags with wide := on }
  | 'R' => some { flags with carriageReturn := on }
  | 'x' => some { flags with freeLayout := on }
  | _ => none

/-- A list of switches as it stands in a group or a directive, up to its `:` or `)`. -/
structure Listed where
  flags : Flags
  /-- was anything listed? -/
  isEmpty : Bool
  /-- the mark that ends the list -/
  mark : Char
  rest : List Char

/-- Reads switches up to `:` or `)`.  Those after a hyphen are turned off.  No switch may come
twice, nor the hyphen, and a hyphen may not come last.  `seen` holds what was read, last first. -/
def read? (flags : Flags) (seen : List Char) : List Char → Option Listed
  | [] => none
  | c :: rest =>
    if c = ':' ∨ c = ')' then
      if seen.head? = some '-' then none else some ⟨flags, seen.isEmpty, c, rest⟩
    else if seen.contains c then none
    else if c = '-' then read? flags (c :: seen) rest
    else
      match flags.set? c (!seen.contains '-') with
      | some flags => read? flags (c :: seen) rest
      | none => none

end Flags

end Placeholders.Pattern
