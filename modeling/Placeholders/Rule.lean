import Placeholders.Catalog

/-!
# Rules

A rule says what replaces the placeholder of a spec: a fixed text, or the value of the source after
a chain of filters.

* `normalizeSpec` — the spec of a key: markers at its front do not count.
* `Rule` — a rule; `Rule.apply` — what it does to a value.
* `FilterRef` — an element of a chain as a caller gives it.
-/

namespace Placeholders

/-- Is the character one of the markers that a spec may carry at its front? -/
def isMarker (c : Char) : Bool := c == ':' || c == '&'

/-- The spec of a key: the key without the markers at its front. -/
def normalizeSpec (key : String) : String := String.ofList (key.toList.dropWhile isMarker)

/-- What replaces a placeholder. -/
inductive Rule where
  | static (text : String)
  | chain (filters : List Filter)

namespace Rule

/-- The filters of a chain. -/
def filters? : Rule → Option (List Filter)
  | .static _ => none
  | .chain filters => some filters

/-- Feeds a value through the chain.  A static rule leaves it alone. -/
def apply : Rule → Json → Except Fault Json
  | .static _, value => .ok value
  | .chain filters, value => Filter.runAll filters value

end Rule

/-- An element of a chain: a filter, or the name of one. -/
inductive FilterRef where
  | named (name : String)
  | live (filter : Filter)

/-- The filter that is meant. -/
def FilterRef.resolve (catalog : Catalog) : FilterRef → Except Fault Filter
  | .named name => catalog.resolve name
  | .live filter => .ok filter

end Placeholders
