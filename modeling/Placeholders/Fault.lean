import Placeholders.Pattern

/-!
# Faults

What can be wrong with a request to resolve a target.

* `InputFault` — a value of the wrong kind.
* `SetupFault` — a filter or rule that was not set up properly.
* `Fault` — any fault; `Fault.message` — its text.
-/

namespace Placeholders

/-- A value has the wrong kind. -/
inductive InputFault where
  /-- a filter that wants a string got something else -/
  | noString (filter kind : String)
  /-- a filter that wants a scalar got something else -/
  | noScalar (filter kind : String)
  /-- the source is no object -/
  | sourceKind (kind : String)
  /-- a value of the source is no string -/
  | sourceValue (key kind : String)
  /-- a chain ended with a value that has no text -/
  | chainOutput (spec kind : String)
  /-- what a filter of the caller's own says -/
  | custom (text : String)
  deriving DecidableEq

/-- The text of a wrong kind. -/
def InputFault.text : InputFault → String
  | .noString filter kind => s!"filter '{filter}' expects a string, got {kind}"
  | .noScalar filter kind => s!"filter '{filter}' expects a scalar value, got {kind}"
  | .sourceKind kind => s!"source must be an object of strings, got {kind}"
  | .sourceValue key kind => s!"source value for '{key}' must be a string, got {kind}"
  | .chainOutput spec kind =>
    s!"filter chain for spec '{spec}' produced {kind}, expected a string"
  | .custom text => text

/-- The most bytes that the text of a pattern may have. -/
def maxPatternBytes : Nat := 500

/-- A filter or a rule was not set up properly. -/
inductive SetupFault where
  /-- the text of a pattern has too many bytes -/
  | longPattern (bytes : Nat)
  /-- a replacing filter has no pattern -/
  | noPattern
  /-- a chain has no filter -/
  | emptyChain (spec : String)
  /-- the identifier is empty -/
  | emptyIdentifier
  /-- a key without the marker was given a chain -/
  | staticChain (key identifier : String)
  deriving DecidableEq

/-- The text of a setup fault. -/
def SetupFault.text : SetupFault → String
  | .longPattern bytes =>
    s!"pattern length ({bytes}) exceeds maximum allowed ({maxPatternBytes})"
  | .noPattern => "regex_replace filter has no match pattern registered"
  | .emptyChain spec => s!"rule chain for spec '{spec}' is empty"
  | .emptyIdentifier => "replacement identifier must not be empty"
  | .staticChain key identifier =>
    s!"rule '{key}' is static but was given a filter chain; prefix it with '{identifier}' " ++
      "to make it dynamic"

/-- What can go wrong. -/
inductive Fault where
  | input (fault : InputFault)
  | setup (fault : SetupFault)
  /-- a placeholder is left over; `inflected` is the text as far as it was resolved -/
  | unresolved (identifier spec inflected : String)
  /-- no filter has this name -/
  | unknownFilter (name : String)
  /-- a text is no pattern -/
  | badPattern (source : String) (defect : Pattern.Defect)
  deriving DecidableEq

/-- The text of a defect. -/
def Pattern.Defect.text : Pattern.Defect → String
  | .malformed => "regex parse error"
  | .tooLarge => s!"Compiled regex exceeds size limit of {10 * Nat.pow 2 20} bytes."

/-- The text of a fault, with a given wording for the defects of patterns. -/
def Fault.messageWith (wording : Pattern.Defect → String) : Fault → String
  | .input fault => "Invalid input type: " ++ fault.text
  | .setup fault => "Invalid configuration: " ++ fault.text
  | .unresolved identifier spec inflected =>
    s!"A replacement identifier '{identifier}' was found for spec '{spec}' inside the " ++
      "inflected target, perhaps a rule was not satisfied with a target source? " ++
      s!"Unsatisfied inflected target: {inflected}"
  | .unknownFilter name => s!"Filter '{name}' is not registered"
  | .badPattern source defect => s!"Failed to compile pattern '{source}': {wording defect}"

/-- The text of a fault. -/
def Fault.message : Fault → String := Fault.messageWith Pattern.Defect.text

end Placeholders
