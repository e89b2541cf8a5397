import Placeholders.Pattern.Flags
import Placeholders.Text.Digit
import Placeholders.Text.Query

/-!
# Escapes and classes by name

* `Atom` — what an escape stands for: a character, a set or an assertion.
* `isMeta` — the characters that mean something in a pattern.
* `readEscape` — reads an escape after its backslash.
-/

namespace Placeholders.Pattern

/-- What an escape stands for. -/
inductive Atom where
  /-- A character.  `byte` marks one given as a byte by two hexadecimal digits. -/
  | char (c : Char) (byte : Bool)
  | set (set : CharSet)
  | look (l : Look)

/-- Characters with a meaning, somewhere in a pattern. -/
def isMeta (c : Char) : Bool :=
  ['\\', '.', '+', '*', '?', '(', ')', '|', '[', ']', '\x7b', '\x7d', '^', '$', '#', '&', '-',
    '~'].contains c

/-- Characters that a backslash leaves as they are: in ASCII, all but letters, digits and the angle
brackets. -/
def isEscapable (c : Char) : Bool :=
  c.toNat < 128 && !c.isAlphanum && c != '<' && c != '>'

/-! ## Hexadecimal -/

/-- The character with a code point, if it is one. -/
def charOf? (n : Nat) : Option Char :=
  if n.isValidChar then some (Char.ofNat n) else none

/-- Reads exactly `n` hexadecimal digits. -/
def readHexDigits (flags : Flags) : Nat → Nat → List Char → Option (Nat × List Char)
  | 0, value, cs => some (value, cs)
  | _ + 1, _, [] => none
  | n + 1, value, c :: rest => do
    let d ← hexDigit? c
    readHexDigits flags n (value * 16 + d) (flags.skip rest)

/-- Reads hexadecimal digits up to a closing brace.  The text is no shorter than the fuel. -/
def readHexBraced (flags : Flags) : Nat → Option Nat → List Char → Option (Nat × List Char)
  | 0, _, _ => none
  | _ + 1, _, [] => none
  | fuel + 1, value, c :: rest =>
    if c = '\x7d' then value.map fun n => (n, flags.skip rest)
    else do
      let d ← hexDigit? c
      readHexBraced flags fuel (some (value.getD 0 * 16 + d)) (flags.skip rest)

/-- Reads the digits of an escape that by default has `width` of them. -/
def readHex (flags : Flags) (width : Nat) (cs : List Char) : Option (Atom × List Char) :=
  match flags.skip cs with
  | '\x7b' :: rest => do
    let (n, rest) ← readHexBraced flags (rest.length + 1) none (flags.skip rest)
    let c ← charOf? n
    pure (.char c false, rest)
  | cs => do
    let (n, rest) ← readHexDigits flags width 0 cs
    let c ← charOf? n
    pure (.char c (width == 2), rest)

/-! ## Properties -/

/-- Reads a name up to a closing brace; `read` holds what was read, last first. -/
def readBraced (flags : Flags) : Nat → List Char → List Char → Option (List Char × List Char)
  | 0, _, _ => none
  | _ + 1, _, [] => none
  | fuel + 1, read, c :: rest =>
    if c = '\x7d' then some (read.reverse, rest)
    else readBraced flags fuel (c :: read) (flags.skip rest)

/-- Splits a text at the first place where `mark` stands. -/
def splitAt? (mark : List Char) : List Char → Option (List Char × List Char)
  | [] => none
  | c :: rest =>
    if mark.isPrefixOf (c :: rest) then some ([], (c :: rest).drop mark.length)
    else (splitAt? mark rest).map fun (before, after) => (c :: before, after)

/-- The set that a query in braces denotes, and whether it is negated: a property and a value, or a
name alone. -/
def query? (text : List Char) : Option (CharSet × Bool) :=
  match splitAt? ['!', '='] text with
  | some (name, value) => (CharSet.valued? name value).map (·, true)
  | none =>
    match (splitAt? [':'] text).or (splitAt? ['='] text) with
    | some (name, value) => (CharSet.valued? name value).map (·, false)
    | none => (CharSet.named? text).map (·, false)

/-- Reads the query of a property escape.  There is none within single bytes. -/
def readProperty (flags : Flags) (negated : Bool) (cs : List Char) : Option (Atom × List Char) :=
  match flags.skip cs with
  | [] => none
  | '\x7b' :: rest => do
    let (name, rest) ← readBraced flags (rest.length + 1) [] (flags.skip rest)
    let (set, unequal) ← query? name
    let set ← if flags.wide then flags.close (negated != unequal) set else none
    pure (.set set, rest)
  | '\\' :: _ => none
  | c :: rest => do
    let set ← CharSet.named? [c]
    let set ← if flags.wide then flags.close negated set else none
    pure (.set set, rest)

/-! ## Short classes and assertions -/

/-- The set of a class letter: digits, space or word characters. -/
def shortClass (flags : Flags) : Char → CharSet
  | 'd' => if flags.wide then .category [.nd] else .range '0' '9'
  | 's' =>
    if flags.wide then .whiteSpace else .union (.range '\t' '\r') (.single ' ')
  | _ =>
    if flags.wide then .word else .asciiWord

/-- Reads the word in braces that may follow `\b`.  If no letter or hyphen comes first, the brace
belongs to something else. -/
def readEdgeName (flags : Flags) : Nat → List Char → List Char → Option (List Char × List Char)
  | 0, _, _ => none
  | _ + 1, _, [] => none
  | fuel + 1, read, c :: rest =>
    if c.isAlpha ∨ c = '-' then readEdgeName flags fuel (c :: read) (flags.skip rest)
    else if c = '\x7d' then some (read.reverse, rest)
    else none

/-- Reads a word boundary after its letter. -/
def readWordEdge (flags : Flags) (cs : List Char) : Option (Atom × List Char) :=
  let plain : Option (Atom × List Char) := some (.look (.wordEdge (!flags.wide)), cs)
  match cs with
  | '\x7b' :: rest =>
    match flags.skip rest with
    | [] => none
    | c :: rest =>
      if c.isAlpha ∨ c = '-' then do
        let (name, rest) ← readEdgeName flags (rest.length + 2) [] (c :: rest)
        let look ← match String.ofList name with
          | "start" => some (Look.wordStart (!flags.wide))
          | "end" => some (Look.wordStop (!flags.wide))
          | "start-half" => some (Look.noWordBefore (!flags.wide))
          | "end-half" => some (Look.noWordAfter (!flags.wide))
          | _ => none
        pure (.look look, rest)
      else plain
  | _ => plain

/-- Reads an escape after its backslash. -/
def readEscape (flags : Flags) : List Char → Option (Atom × List Char)
  | [] => none
  | c :: rest =>
    if isMeta c ∨ isEscapable c then some (.char c false, rest)
    else match c with
      | 'x' => readHex flags 2 rest
      | 'u' => readHex flags 4 rest
      | 'U' => readHex flags 8 rest
      | 'p' => readProperty flags false rest
      | 'P' => readProperty flags true rest
      | 'd' | 's' | 'w' => some (.set (shortClass flags c), rest)
      | 'D' | 'S' | 'W' =>
        if flags.wide then some (.set (.compl (shortClass flags c.toLower)), rest) else none
      | 'a' => some (.char '\x07' false, rest)
      | 'f' => some (.char '\x0c' false, rest)
      | 't' => some (.char '\t' false, rest)
      | 'n' => some (.char '\n' false, rest)
      | 'r' => some (.char '\r' false, rest)
      | 'v' => some (.char '\x0b' false, rest)
      | 'A' => some (.look .start, rest)
      | 'z' => some (.look .stop, rest)
      | 'b' => readWordEdge flags rest
      | 'B' => some (.look (.noWordEdge (!flags.wide)), rest)
      | '<' => some (.look (.wordStart (!flags.wide)), rest)
      | '>' => some (.look (.wordStop (!flags.wide)), rest)
      | _ => none

end Placeholders.Pattern
