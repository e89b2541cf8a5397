/-!
# Pairs on the command line

* `CommandLine.readPair` — reads `KEY=VALUE`.
-/

namespace Placeholders.CommandLine

/-- An argument is no pair of a key and a value. -/
structure PairFault where
  argument : String
  deriving DecidableEq

/-- The text of the fault. -/
def PairFault.message (f : PairFault) : String := s!"expected KEY=VALUE, got '{f.argument}'"

/-- Reads a pair.  The key ends at the first equals sign and may not be empty. -/
def readPair (argument : String) : Except PairFault (String × String) :=
  let key := argument.toList.takeWhile (· ≠ '=')
  match argument.toList.drop key.length with
  | '=' :: value =>
    if key.isEmpty then .error ⟨argument⟩ else .ok (String.ofList key, String.ofList value)
  | _ => .error ⟨argument⟩

end Placeholders.CommandLine
