import Placeholders.Filter
import Placeholders.Text.Case

/-!
# Case filters

* `Filter.lowercase`, `Filter.uppercase` — full case mapping of a string.
-/

namespace Placeholders.Filter

/-- Turns a string into small letters. -/
def lowercase : Filter := .onString "lowercase" fun s => .ok (Case.lower s)

/-- Turns a string into capital letters. -/
def uppercase : Filter := .onString "uppercase" fun s => .ok (Case.upper s)

end Placeholders.Filter
