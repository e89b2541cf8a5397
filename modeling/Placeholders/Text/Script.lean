import Placeholders.Text.Script.Runs

/-!
# Scripts

* `Script.named?` — the runs of the script with a given name.
-/

namespace Placeholders.Script

/-- The runs of the script that has this name in loose form. -/
def named? (name : String) : Option (List (Nat × Nat)) :=
  (all.find? fun entry => entry.1.contains name).map (·.2)

end Placeholders.Script
