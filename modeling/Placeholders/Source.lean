import Placeholders.Rule

/-!
# Sources

A source is the object of strings that a caller supplies.

* `Source` — its values by spec; `Source.ofJson` reads one, `Source.value?` looks into it.
* `Source.ofPairs` — the object of some pairs.
-/

namespace Placeholders

/-- Values by spec, in descending order of the keys they came under. -/
structure Source where
  values : List (String × String)

namespace Source

/-- Adds the value of a key. -/
def add (s : Source) (key : String) : Json → Except Fault Source
  | .string value => .ok ⟨(normalizeSpec key, value) :: s.values⟩
  | other => .error (.input (.sourceValue key other.kind))

/-- The source that an object of strings makes.  Of the values that are no strings, the one under
the least key is reported. -/
def ofJson : Json → Except Fault Source
  | .object fields => fields.foldlM (fun s (key, value) => s.add key value) ⟨[]⟩
  | other => .error (.input (.sourceKind other.kind))

/-- The value of a spec.  Of several keys with this spec the greatest counts. -/
def value? (s : Source) (spec : String) : Option String := s.values.lookup spec

/-- The object of some pairs; of several pairs with one key the last counts. -/
def ofPairs (pairs : List (String × String)) : Json :=
  Json.ofFields (pairs.map fun (key, value) => (key, .string value))

end Source

end Placeholders
