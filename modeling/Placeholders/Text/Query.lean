import Placeholders.Text.Age
import Placeholders.Text.Property
import Placeholders.Text.Script.Extension
import Placeholders.Text.Segment.Grapheme
import Placeholders.Text.Segment.Sentence

/-!
# Queries for sets of characters by name

* `CharSet.looseName` — the form in which names are compared.
* `CharSet.named?` — the set that a name alone denotes.
* `CharSet.valued?` — the set that the name of a property and a value denote.
-/

namespace Placeholders.CharSet

/-- The loose form in which names are compared: without a leading "is", without blanks, hyphens,
underscores and characters outside ASCII, in small letters.  The name "isc" alone keeps its "is",
because "c" by itself means something else. -/
def looseName (name : List Char) : String :=
  let strip := fun (cs : List Char) =>
    (cs.filter fun c => c.toNat < 128 && c != ' ' && c != '_' && c != '-').map Char.toLower
  let loose := match name with
    | a :: b :: rest =>
      if a.toLower = 'i' ∧ b.toLower = 's' then
        let cs := strip rest
        if cs = ['c'] then ['i', 's', 'c'] else cs
      else strip name
    | _ => strip name
  String.ofList loose

/-! ## Kinds of names -/

/-- The set of a binary property. -/
def propertyNamed? (name : String) : Option CharSet :=
  (properties.find? fun entry => entry.1.contains name).map (·.2)

/-- The set of a general category, or of one of the three sets that are named like one. -/
def categoryNamed? (name : String) : Option CharSet :=
  if name = "any" then some (.compl .none)
  else if name = "assigned" then some (.compl (.category [.cn]))
  else if name = "ascii" then some (.range '\x00' '\x7f')
  else (Category.named? name).map .category

/-- The set of a script. -/
def scriptNamed? (name : String) : Option CharSet := (Script.named? name).map .runs

/-! ## Queries -/

/-- The set that a name alone denotes: a property, else a category, else a script. -/
def named? (name : List Char) : Option CharSet :=
  let name := looseName name
  (propertyNamed? name).or ((categoryNamed? name).or (scriptNamed? name))

/-- The set that the name of a property and a value denote. -/
def valued? (property value : List Char) : Option CharSet :=
  let value := looseName value
  match looseName property with
  | "gc" | "generalcategory" => categoryNamed? value
  | "sc" | "script" => scriptNamed? value
  | "scx" | "scriptextensions" => Script.extended? value
  | "age" => Age.upTo? value
  | "gcb" | "graphemeclusterbreak" => Segment.Grapheme.named? value
  | "wb" | "wordbreak" => Segment.Word.named? value
  | "sb" | "sentencebreak" => Segment.Sentence.named? value
  | _ => Option.none

end Placeholders.CharSet
