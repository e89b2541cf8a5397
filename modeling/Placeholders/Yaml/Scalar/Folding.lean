import Placeholders.Yaml.Text

/-!
# Folding

Words of a scalar may stand on several lines.  Blanks between words on one line stay; blanks around
a line break go, a single break becomes a space, and of several breaks the first goes.

* `Yaml.Gap` — what stands between two words.
* `Yaml.Gap.folded` — what is left of it.
-/

namespace Placeholders.Yaml

/-- What was read between two words, last first.  Among breaks, `first` is the one that folding may
drop; there is none where the break was escaped. -/
inductive Gap where
  | nothing
  | blanks (read : List Char)
  | breaks (first : Option Char) (more : List Char)

namespace Gap

/-- One more blank or break. -/
def add (g : Gap) (c : Char) : Gap :=
  if isBreak c then
    match g with
    | .breaks first more => .breaks first (c :: more)
    | _ => .breaks (some c) []
  else
    match g with
    | .nothing => .blanks [c]
    | .blanks read => .blanks (c :: read)
    | .breaks first more => .breaks first more

/-- Is there anything? -/
def isEmpty : Gap → Bool
  | .nothing => true
  | _ => false

/-- Is there a break? -/
def isBroken : Gap → Bool
  | .breaks _ _ => true
  | _ => false

/-- What is left of the gap, last first. -/
def folded : Gap → List Char
  | .nothing => []
  | .blanks read => read
  | .breaks (some '\n') [] => [' ']
  | .breaks (some '\n') more => more
  | .breaks first more => more ++ first.toList

end Gap

end Placeholders.Yaml
