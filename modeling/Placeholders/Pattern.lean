import Placeholders.Pattern.Reader
import Placeholders.Pattern.Matcher
import Placeholders.Pattern.Program

/-!
# Patterns

A pattern is a text that has been read as an expression.

* `Pattern.compile` — the pattern of a text, if it is one and its matching programs are not too
  large.
* `Pattern.quote` — the text of a pattern that matches a given text and nothing else.
* `Pattern.splice`, `Pattern.replaceAll` — replacing every match.
* `Pattern.firstGroups?` — the groups of the first match.
-/

namespace Placeholders

/-- A pattern: the text it was read from, and its expression. -/
structure Pattern where
  source : String
  expr : Pattern.Expr

/-- The groups of a match by their index; group 0 is all of it.  A group that does not exist or took
no part in the match has no text. -/
abbrev Groups := Nat → Option (List Char)

namespace Pattern

/-- Why a text is no pattern. -/
inductive Defect where
  /-- it does not follow the grammar, or nests too deeply -/
  | malformed
  /-- its matching programs are too large -/
  | tooLarge
  deriving DecidableEq

/-- The pattern of a text. -/
def compile (source : String) : Except Defect Pattern :=
  match read? source.toList with
  | some term => if term.fits then .ok ⟨source, .ofTerm term⟩ else .error .tooLarge
  | none => .error .malformed

/-- A text as a pattern that matches just this text: characters with a meaning are escaped. -/
def quote (cs : List Char) : List Char :=
  cs.flatMap fun c => if isMeta c then ['\\', c] else [c]

/-! ## Replacing -/

/-- Replaces the matches in a text, from left to right.  The text begins after `before`, inside a
match of which `skip` characters are left; `ended` says that a match ends right here, and then an
empty match here does not count. -/
def splice (e : Expr) (replacement : Groups → List Char) :
    (skip : Nat) → (ended : Bool) → (before : Option Char) → List Char → List Char
  | _, ended, before, [] =>
    match matchAt e before [] with
    | some found => if ended then [] else replacement (found.group? [])
    | none => []
  | skip + 1, _, _, c :: rest => splice e replacement skip (skip == 0) (some c) rest
  | 0, ended, before, c :: rest =>
    match matchAt e before (c :: rest) with
    | none => c :: splice e replacement 0 false (some c) rest
    | some found =>
      let text := replacement (found.group? (c :: rest))
      match found.length with
      | 0 => (if ended then [] else text) ++ c :: splice e replacement 0 false (some c) rest
      | n + 1 => text ++ splice e replacement n (n == 0) (some c) rest

/-- Replaces every match of a pattern in a text. -/
def replaceAll (p : Pattern) (replacement : Groups → List Char) (text : String) : String :=
  String.ofList (splice p.expr replacement 0 false none text.toList)

/-! ## Searching -/

/-- The groups of the first match in a text that begins after `before`. -/
def firstGroups? (e : Expr) (before : Option Char) : List Char → Option Groups
  | [] => (matchAt e before []).map fun found => found.group? []
  | c :: rest =>
    match matchAt e before (c :: rest) with
    | some found => some (found.group? (c :: rest))
    | none => firstGroups? e (some c) rest

end Pattern

end Placeholders
