import Placeholders.Filter.Substitution
import Placeholders.Text.Case

/-!
# Camel case

* `CamelSplit` — puts a separator between the words of a name in camel case.
* `CamelJoin` — drops separators and capitalises the words.
-/

namespace Placeholders

/-! ## Splitting -/

/-- A filter that separates the words of a name. -/
structure CamelSplit where
  name : String
  separator : String

namespace CamelSplit

/-- A splitting filter named after its separator. -/
def ofSeparator (separator : String) : CamelSplit :=
  ⟨s!"camel_case_to_separator({separator})", separator⟩

/-- Splits with underscores. -/
def underscore : CamelSplit := ⟨"camel_case_to_underscore", "_"⟩

/-- Splits with dashes. -/
def dash : CamelSplit := ⟨"camel_case_to_dash", "-"⟩

/-- The expression for one capital letter. -/
def capital : Pattern.Expr := .one (.category [.lu])

/-- The expression for one small letter. -/
def small : Pattern.Expr := .one (.category [.ll])

/-- The expression for one decimal digit. -/
def digit : Pattern.Expr := .one (.category [.nd])

/-- A boundary before the last capital letter of a run, where a word begins: the first group ends
and the second begins there. -/
def runEnd : Pattern where
  source := "(\\p\x7bLu\x7d)(\\p\x7bLu\x7d\\p\x7bLl\x7d)"
  expr := .cat (.group 1 capital) (.group 2 (.cat capital small))

/-- A boundary between a small letter or digit and a capital letter. -/
def wordEnd : Pattern where
  source := "(\\p\x7bLl\x7d|\\p\x7bNd\x7d)(\\p\x7bLu\x7d)"
  expr := .cat (.group 1 (.alt 0 small digit)) (.group 2 capital)

/-- What stands at a boundary: both groups and, verbatim, the separator between them. -/
def template (separator : String) : String :=
  "$\x7b1\x7d" ++ String.ofList (Template.escapeLiteral separator.toList) ++ "$\x7b2\x7d"

/-- The substitution that puts the separator at the boundaries: first those inside runs of capital
letters, then the others. -/
def substitution (separator : String) : Substitution where
  patterns := [runEnd, wordEnd]
  templates := [template separator]

/-- Splits a text. -/
def apply (c : CamelSplit) (text : String) : String := (substitution c.separator).apply text

/-- The filter. -/
def toFilter (c : CamelSplit) : Filter := .onString c.name fun text => .ok (c.apply text)

end CamelSplit

/-! ## Joining -/

/-- A filter that joins separated words. -/
structure CamelJoin where
  name : String
  separator : String

namespace CamelJoin

/-- A joining filter named after its separator. -/
def ofSeparator (separator : String) : CamelJoin :=
  ⟨s!"separator_to_camel_case({separator})", separator⟩

/-- Joins at underscores. -/
def underscore : CamelJoin := ⟨"underscore_to_camel_case", "_"⟩

/-- Joins at dashes. -/
def dash : CamelJoin := ⟨"dash_to_camel_case", "-"⟩

/-- The pattern of a word start: a small letter at the start of the text or after a separator. -/
def wordStart (separator : String) : String :=
  "(?:^|" ++ String.ofList (Pattern.quote separator.toList) ++ ")(\\p\x7bLl\x7d)"

/-- Joins a text: the separator goes and the letter is capitalised. -/
def apply (c : CamelJoin) (text : String) : Except Fault String :=
  match Pattern.compile (wordStart c.separator) with
  | .ok pattern =>
    .ok (pattern.replaceAll (fun groups => ((groups 1).getD []).flatMap Case.upperChar) text)
  | .error defect => .error (.badPattern (wordStart c.separator) defect)

/-- The filter. -/
def toFilter (c : CamelJoin) : Filter := .onString c.name c.apply

end CamelJoin

end Placeholders
