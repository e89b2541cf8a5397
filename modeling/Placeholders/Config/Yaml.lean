import Placeholders.Config.Content
import Placeholders.Failure
import Placeholders.Yaml.Document

/-!
# Configurations in YAML

* `Config.ofYaml` — reads and checks the configuration that a text holds.
-/

namespace Placeholders.Config

/-- The manner for YAML. -/
def Manner.yaml : Manner := ⟨true, false, true⟩

/-- How far a configuration is read: fields of other names are left alone. -/
def extent : Content.Extent :=
  .fields
    [("target", .whole), ("identifier", .whole), ("throw_on_unresolved", .whole),
     ("rules", .items (.fields [("key", .whole), ("value", .whole)]))]

/-- The configuration that a text holds, whatever problems it has. -/
def ofYaml? (text : String) : Option Config := do
  let document ← Yaml.document? text
  let content ← document.read? extent
  ofContent? .yaml content

/-- The configuration that a text holds, if it has no problems. -/
def ofYaml (text : String) : Except Failure Config :=
  match ofYaml? text with
  | none => inContext "Failed to parse inflector config" (failFor .malformed)
  | some c =>
    match c.check with
    | .ok () => .ok c
    | .error problems => failFor (.invalid problems)

end Placeholders.Config
