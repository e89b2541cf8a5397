import Placeholders.Resolver

/-!
# Listings

* `ruleLine`, `rulesListing` — the rules of a resolver, a line for each in order: spec, kind and
  detail, separated by tabs.
* `filtersListing` — the names of a catalogue, a line for each.
-/

namespace Placeholders

/-- The line of a rule: a fixed text as it is, a chain by the names of its filters. -/
def ruleLine (entry : RuleEntry) : String :=
  match entry.rule with
  | .static text => entry.spec ++ "\tstatic\t" ++ text ++ "\n"
  | .chain filters =>
    entry.spec ++ "\tchain\t" ++ String.intercalate " -> " (filters.map (·.name)) ++ "\n"

/-- The rules of a resolver in the order of substitution. -/
def rulesListing (r : Resolver) : String := String.join (r.rules.entries.map ruleLine)

/-- The names of a catalogue in ascending order. -/
def filtersListing (c : Catalog) : String := String.join (c.names.map (· ++ "\n"))

end Placeholders
