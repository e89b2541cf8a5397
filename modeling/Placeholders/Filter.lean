import Placeholders.Fault
import Placeholders.Json.Basic

/-!
# Filters

A filter turns a value into another or refuses it.

* `Filter` — a filter and the name it is listed under.
* `Filter.runAll` — a chain of filters, each working on what the one before it gives.
* `requireString`, `requireScalar` — the text that a filter works on.
-/

namespace Placeholders

/-- A transformation of values.  Anything with a name and a way to work is a filter. -/
structure Filter where
  name : String
  run : Json → Except Fault Json

/-- Feeds a value through a chain; the first refusal ends it. -/
def Filter.runAll (chain : List Filter) (value : Json) : Except Fault Json :=
  chain.foldlM (fun current filter => filter.run current) value

/-- The text of a string; other values are refused in the name of the filter. -/
def requireString (filter : String) : Json → Except Fault String
  | .string s => .ok s
  | other => .error (.input (.noString filter other.kind))

/-- The text of a scalar; other values are refused in the name of the filter. -/
def requireScalar (filter : String) (value : Json) : Except Fault String :=
  match value.scalarText? with
  | some text => .ok text
  | none => .error (.input (.noScalar filter value.kind))

/-- A filter that works on the text of strings. -/
def Filter.onString (name : String) (f : String → Except Fault String) : Filter where
  name := name
  run value := do
    let text ← requireString name value
    let result ← f text
    pure (.string result)

end Placeholders
