import Placeholders.Assoc
import Placeholders.Decimal.Shortest

/-!
# JSON values

* `Json.Number` — an integer, or a double for every other number.
* `Json` — a value.  An object is a list of fields that ascends strictly by key.
* `Json.ofFields` — an object from fields in any order.
* `Json.kind` — the word for the kind of a value.
* `Json.scalarText?` — the text of a string, number or boolean.
-/

namespace Placeholders

namespace Json

/-- A number: integers stay integers, all others are doubles. -/
inductive Number where
  | int (value : Int)
  | float (value : Binary64)
  deriving DecidableEq

/-- Decimal digits of a natural number. -/
def natText (n : Nat) : String := String.ofList (Nat.toDigits 10 n)

/-- Decimal digits of an integer after its sign. -/
def intText (i : Int) : String :=
  if i < 0 then "-" ++ natText i.natAbs else natText i.natAbs

/-- Doubles are written plainly from 10^-5 up to 10^16 and with an exponent beyond; a positive
exponent carries its sign. -/
def floatLayout : DecimalLayout := ⟨-5, 15, "e+"⟩

/-- The text of a number: an integer in decimal, a double by its shortest digits, always with a
point or an exponent. -/
def Number.text : Number → String
  | .int i => intText i
  | .float x => floatLayout.write x

end Json

/-- A JSON value. -/
inductive Json where
  | null
  | bool (value : Bool)
  | number (value : Json.Number)
  | string (value : String)
  | array (items : List Json)
  | object (fields : List (String × Json))
  deriving Inhabited

namespace Json

/-- An object from fields in any order; of several fields under one key the last counts. -/
def ofFields (fields : List (String × Json)) : Json :=
  .object (Assoc.ofList fields)

/-- The value under a key. -/
def field? (key : String) : Json → Option Json
  | .object fields => fields.lookup key
  | _ => none

/-- The word for the kind of a value. -/
def kind : Json → String
  | .null => "null"
  | .bool _ => "boolean"
  | .number _ => "number"
  | .string _ => "string"
  | .array _ => "array"
  | .object _ => "object"

/-- The text of a scalar: a string as it is, a number in decimal, a boolean by its name. -/
def scalarText? : Json → Option String
  | .string s => some s
  | .number n => some n.text
  | .bool true => some "true"
  | .bool false => some "false"
  | _ => none

end Json

end Placeholders
