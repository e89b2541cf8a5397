import Placeholders.Text.Case.Runs
import Placeholders.Text.Newest

/-!
# Case mapping

Full case mapping works on texts, not on characters: a capital form can be longer than its letter,
and a capital sigma has two small forms.

* `Case.lower`, `Case.upper` — full case mapping of a text.
* `Case.lowerChar`, `Case.upperChar` — the mapping of one character out of context.
* `Case.isFinalSigma` — when a capital sigma ends a word.
-/

namespace Placeholders.Case

/-! ## Mapping -/

/-- The small form of a character out of context.  Only the dotted capital I has a small form of
two characters. -/
def lowerChar (c : Char) : List Char :=
  if c.toNat < 128 then [c.toLower]
  else if c.toNat = 0x0130 then ['i', Char.ofNat 0x0307]
  else match shift? toLowerRuns c.toNat with
    | some n => [Char.ofNat n]
    | none => [c]

/-- The capital form of a character. -/
def upperChar (c : Char) : List Char :=
  if c.toNat < 128 then [c.toUpper]
  else match toUpperSpecial.lookup c.toNat with
    | some ns => ns.map Char.ofNat
    | none =>
      match shift? toUpperRuns c.toNat with
      | some n => [Char.ofNat n]
      | none => [c]

/-- Is the nearest character that is not case-ignorable a cased one? -/
def nextIsCased (cs : List Char) : Bool :=
  match cs.dropWhile isCaseIgnorable with
  | [] => false
  | c :: _ => isCased c

/-- A sigma between `before` (nearest character first) and `after` ends a word if a cased character
comes before it and none after it, case-ignorable characters aside. -/
def isFinalSigma (before after : List Char) : Bool :=
  nextIsCased before && !nextIsCased after

/-- Small forms of the characters of a text, given the characters before it, nearest first. -/
def lowerAfter (before : List Char) : List Char → List Char
  | [] => []
  | c :: rest =>
    (if c = 'Σ' then [if isFinalSigma before rest then 'ς' else 'σ'] else lowerChar c) ++
      lowerAfter (c :: before) rest

/-- The small form of a text. -/
def lower (s : String) : String :=
  String.ofList (lowerAfter [] s.toList)

/-- The capital form of a text. -/
def upper (s : String) : String :=
  String.ofList (s.toList.flatMap upperChar)

end Placeholders.Case
