import Placeholders.Filter
import Placeholders.Template.Scan
import Placeholders.Work

/-!
# Substitution

A substitution is a list of patterns and a list of templates.  Each pattern in turn replaces all its
matches in what the one before it left; its template is the one at the same index, or the last if
there are fewer, or nothing if there are none.

* `compilePattern` — a pattern as users write it, of limited length.
* `Substitution` — patterns and templates; `addPattern`, `addTemplate`, `ofLists` build it.
* `Substitution.apply` — what it does to a text; `Substitution.toFilter` — the filter.
-/

namespace Placeholders

/-- The pattern of a text that a user wrote. -/
def compilePattern (source : String) : Except Fault Pattern :=
  if maxPatternBytes < source.utf8ByteSize then
    .error (.setup (.longPattern source.utf8ByteSize))
  else
    match Pattern.compile source with
    | .ok pattern => .ok pattern
    | .error defect => .error (.badPattern source defect)

/-- Patterns with the templates that replace their matches. -/
structure Substitution where
  patterns : List Pattern := []
  templates : List String := []

namespace Substitution

/-! ## Building -/

/-- One more pattern. -/
def addPattern (source : String) : Work Substitution Unit := do
  let pattern ← MonadExcept.ofExcept (compilePattern source)
  modify fun s => { s with patterns := s.patterns ++ [pattern] }

/-- One more template. -/
def addTemplate (s : Substitution) (template : String) : Substitution :=
  { s with templates := s.templates ++ [template] }

/-- The substitution of some patterns and templates. -/
def ofLists (patterns templates : List String) : Except Fault Substitution := do
  let s ← Work.result (patterns.forM addPattern) {}
  pure (templates.foldl addTemplate s)

/-! ## Applying -/

/-- The template of the pattern at an index. -/
def templateAt (s : Substitution) (index : Nat) : String :=
  (s.templates[index]?.or s.templates.getLast?).getD ""

/-- Replaces all matches of a pattern by what a template gives for them. -/
def replaceByTemplate (pattern : Pattern) (template text : String) : String :=
  pattern.replaceAll (Template.fill template.toList) text

/-- Applies the patterns, the first of which has the given index. -/
def applyFrom (s : Substitution) : Nat → List Pattern → String → String
  | _, [], text => text
  | index, pattern :: rest, text =>
    applyFrom s (index + 1) rest (replaceByTemplate pattern (s.templateAt index) text)

/-- Applies all patterns in turn. -/
def apply (s : Substitution) (text : String) : String :=
  s.applyFrom 0 s.patterns text

/-- The name of every substitution filter. -/
def filterName : String := "regex_replace"

/-- The filter of a substitution.  Without a pattern it refuses every value; otherwise it works on
the text of scalars. -/
def toFilter (s : Substitution) : Filter where
  name := filterName
  run value :=
    if s.patterns.isEmpty then .error (.setup .noPattern)
    else do
      let text ← requireScalar filterName value
      pure (.string (s.apply text))

end Substitution

end Placeholders
