import Placeholders.Filter.CamelCase
import Placeholders.Filter.Case

/-!
# Catalogues of filters

Rules may name a filter instead of bringing it along.

* `Maker` — how a filter is made on demand.
* `Catalog` — filters by name; `register`, `contains`, `names`, `resolve` work on it.
* `Catalog.builtin` — the catalogue of the filters of this library.
-/

namespace Placeholders

/-- How a filter is made: as it is constructed, and as it is once its own defaults are filled in.
Most filters have no defaults. -/
structure Maker where
  fresh : Filter
  settled : Filter := fresh

/-- Makers of filters, ascending by name. -/
structure Catalog where
  makers : List (String × Maker) := []

namespace Catalog

/-- Files a maker under a name, in place of one that was there. -/
def register (c : Catalog) (name : String) (maker : Maker) : Catalog :=
  ⟨Assoc.insert name maker c.makers⟩

/-- A catalogue of makers under their names; of several under one name the last counts. -/
def ofList (makers : List (String × Maker)) : Catalog := ⟨Assoc.ofList makers⟩

/-- Is there a filter of this name? -/
def contains (c : Catalog) (name : String) : Bool := (c.makers.lookup name).isSome

/-- All names, ascending. -/
def names (c : Catalog) : List String := c.makers.map (·.1)

/-- A new filter of the given name, with its defaults filled in. -/
def resolve (c : Catalog) (name : String) : Except Fault Filter :=
  match c.makers.lookup name with
  | some maker => .ok maker.settled
  | none => .error (.unknownFilter name)

/-- The filters of this library.  A substitution made by name has no pattern yet. -/
def builtin : Catalog :=
  ofList
    [("lowercase", { fresh := .lowercase }),
     ("uppercase", { fresh := .uppercase }),
     ("regex_replace", { fresh := Substitution.toFilter {} }),
     ("camel_case_to_underscore", { fresh := CamelSplit.underscore.toFilter }),
     ("camel_case_to_dash", { fresh := CamelSplit.dash.toFilter }),
     ("underscore_to_camel_case", { fresh := CamelJoin.underscore.toFilter }),
     ("dash_to_camel_case", { fresh := CamelJoin.dash.toFilter })]

end Catalog

end Placeholders
