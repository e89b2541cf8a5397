import Placeholders.CommandLine.Pair

/-!
# Switches

Arguments are read from left to right, and the first that is wrong decides; so does a switch that
asks for help or for the version.

* `CommandLine.Switch` — the switches, by letter and by word, some with a value.
* `CommandLine.Stop` — why nothing is run.
* `CommandLine.Given` — the switches that were given.
* `CommandLine.readSwitches` — reads switches up to the first other argument.
-/

namespace Placeholders.CommandLine

/-- The switches of the program and of its commands. -/
inductive Switch where
  | quiet
  | debug
  | help
  | version
  | config
  | target
  | set
  | sourceJson
  | noThrow
  | output
  deriving DecidableEq

namespace Switch

/-- What stands behind two hyphens. -/
def word : Switch → String
  | quiet => "quiet"
  | debug => "debug"
  | help => "help"
  | version => "version"
  | config => "config"
  | target => "target"
  | set => "set"
  | sourceJson => "source-json"
  | noThrow => "no-throw"
  | output => "output"

/-- What stands behind a single hyphen. -/
def letter? : Switch → Option Char
  | quiet => some 'q'
  | debug => some 'd'
  | help => some 'h'
  | version => some 'V'
  | config => some 'c'
  | target => some 't'
  | set => some 's'
  | output => some 'o'
  | sourceJson | noThrow => none

/-- Does a value belong to the switch? -/
def takesValue : Switch → Bool
  | config | target | set | sourceJson | output => true
  | quiet | debug | help | version | noThrow => false

/-- May the switch be given several times? -/
def isRepeatable : Switch → Bool
  | set => true
  | _ => false

/-- Is a value good for the switch?  Names of files are not empty, and what is set is a pair. -/
def accepts (s : Switch) (value : String) : Bool :=
  match s with
  | config | sourceJson | output => !value.isEmpty
  | set => (readPair value).toBool
  | _ => true

end Switch

/-- Why nothing is run. -/
inductive Stop where
  | badUsage
  | help
  | version
  deriving DecidableEq

/-- The switches that were given, with their values, last first. -/
abbrev Given := List (Switch × String)

namespace Given

/-- Is a switch among those that were given? -/
def has (g : Given) (s : Switch) : Bool := g.any fun given => given.1 == s

/-- The values of a switch in the order in which they were given. -/
def values (g : Given) (s : Switch) : List String :=
  (g.filter fun given => given.1 == s).reverse.map (·.2)

/-- The value of a switch that is given once at most. -/
def value? (g : Given) (s : Switch) : Option String := (g.values s).head?

/-- Takes a switch with its value, which is empty for those that have none. -/
def add (g : Given) (s : Switch) (value : String) : Except Stop Given :=
  match s with
  | .help => .error .help
  | .version => .error .version
  | s =>
    if (g.has s && !s.isRepeatable) || !s.accepts value then .error .badUsage
    else .ok ((s, value) :: g)

end Given

/-! ## Arguments -/

/-- What was given, and the switch that still wants its value from the next argument. -/
abbrev Taken := Given × Option Switch

/-- Reads a word that stands behind two hyphens.  A value may follow an equals sign. -/
def readWord (known : List Switch) (g : Given) (cs : List Char) : Except Stop Taken :=
  let word := cs.takeWhile (· ≠ '=')
  match known.find? (·.word.toList == word), cs.drop word.length with
  | some s, '=' :: value =>
    if s.takesValue then (g.add s (String.ofList value)).map (·, none) else .error .badUsage
  | some s, _ => if s.takesValue then .ok (g, some s) else (g.add s "").map (·, none)
  | none, _ => .error .badUsage

/-- Reads the letters that stand behind a hyphen.  What follows a letter that wants a value is the
value, without an equals sign in front. -/
def readLetters (known : List Switch) (g : Given) : List Char → Except Stop Taken
  | [] => .ok (g, none)
  | c :: rest =>
    match known.find? (·.letter? == some c) with
    | none => .error .badUsage
    | some s =>
      if s.takesValue then
        match rest with
        | [] => .ok (g, some s)
        | '=' :: value | value => (g.add s (String.ofList value)).map (·, none)
      else
        match g.add s "" with
        | .ok g => readLetters known g rest
        | .error stop => .error stop

/-- Can an argument be the value of the switch in front of it?  A hyphen may begin it only if it is
all of it. -/
def isValue (argument : String) : Bool :=
  match argument.toList with
  | '-' :: _ :: _ => false
  | _ => true

/-- Reads switches, of those that are known, up to the first argument that is none.  Two hyphens end
them for good, and nothing may follow. -/
def readSwitches (known : List Switch) (g : Given) :
    List String → Except Stop (Given × List String)
  | [] => .ok (g, [])
  | argument :: rest =>
    let taken : Option (Except Stop Taken) :=
      match argument.toList with
      | ['-', '-'] => some (if rest.isEmpty then .ok (g, none) else .error .badUsage)
      | '-' :: '-' :: word => some (readWord known g word)
      | '-' :: c :: letters => some (readLetters known g (c :: letters))
      | _ => none
    match taken with
    | none => .ok (g, argument :: rest)
    | some (.error stop) => .error stop
    | some (.ok (g, none)) => readSwitches known g rest
    | some (.ok (g, some s)) =>
      match rest with
      | [] => .error .badUsage
      | value :: rest =>
        if isValue value then
          match g.add s value with
          | .ok g => readSwitches known g rest
          | .error stop => .error stop
        else .error .badUsage

end Placeholders.CommandLine
