import Placeholders.Config
import Placeholders.FileSystem

/-!
# Failures of a run

A run does several things after each other, and a failure says what was being done.

* `Cause` — why a run failed.
* `Failure` — a cause and what was being done, outermost first; `Failure.message` — its text.
* `inContext` — says what was being done.
-/

namespace Placeholders

/-- Why a run failed. -/
inductive Cause where
  | fault (fault : Fault)
  /-- a configuration has problems -/
  | invalid (problems : List Config.Problem)
  /-- a text does not follow its data format; where it breaks is not told -/
  | malformed
  /-- a file cannot be read or written -/
  | file (fault : FileFault)
  /-- the data for the source are no object -/
  | noObject

/-- A failure: what was being done, outermost first, and the cause. -/
structure Failure where
  contexts : List String
  cause : Cause

/-- The text of a cause, with a given wording for the defects of patterns. -/
def Cause.text? (wording : Pattern.Defect → String) : Cause → Option String
  | .fault f => some (f.messageWith wording)
  | .invalid problems => some (Config.problemsText wording problems)
  | .malformed => none
  | .file f => some f.text
  | .noObject => some "Source JSON must be an object of strings"

/-- The parts of the text of a failure, outermost first. -/
def Failure.parts (wording : Pattern.Defect → String) (f : Failure) : List String :=
  f.contexts ++ (f.cause.text? wording).toList

/-- The text of a failure. -/
def Failure.message (f : Failure) : String :=
  String.intercalate ": " (f.parts Pattern.Defect.text)

/-- Says what was being done when something failed. -/
def inContext {α : Type} (context : String) : Except Failure α → Except Failure α
  | .ok a => .ok a
  | .error f => .error { f with contexts := context :: f.contexts }

/-- Fails for a given cause. -/
def failFor {α : Type} (cause : Cause) : Except Failure α := .error ⟨[], cause⟩

/-- A fault as a failure. -/
def orFail {α : Type} : Except Fault α → Except Failure α
  | .ok a => .ok a
  | .error f => failFor (.fault f)

end Placeholders
