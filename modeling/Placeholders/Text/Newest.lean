import Placeholders.Text.Property

/-!
# Characters of the newest edition

Sets of characters follow edition 16 of the character database.  Case mapping and the names of
groups follow edition 17, which adds letters, marks and numbers, and takes one letter out of those
with case.

* `isAlphabetic`, `isAlphanumeric` — what names are made of.
* `isCased`, `isCaseIgnorable` — what case mapping looks at.
-/

namespace Placeholders

/-! ## Added characters -/

/-- Alphabetic characters of edition 17. -/
def addedAlphabetic : List Run :=
  [(0x088F, 0x088F), (0x0C5C, 0x0C5C), (0x0CDC, 0x0CDC), (0xA7CE, 0xA7CF), (0xA7D2, 0xA7D2),
   (0xA7D4, 0xA7D4), (0xA7F1, 0xA7F1), (0x10940, 0x10959), (0x10EC5, 0x10EC7),
   (0x10EFA, 0x10EFB), (0x11B60, 0x11B67), (0x11DB0, 0x11DDB), (0x16EA0, 0x16EB8),
   (0x16EBB, 0x16ED3), (0x16FF2, 0x16FF6), (0x187F8, 0x187FF), (0x18D09, 0x18D1E),
   (0x18D80, 0x18DF2), (0x1E6C0, 0x1E6DE), (0x1E6E0, 0x1E6F5), (0x1E6FE, 0x1E6FF),
   (0x2B73A, 0x2B73F), (0x2CEA2, 0x2CEAD), (0x323B0, 0x33479)]

/-- Decimal digits of edition 17.  Its other numbers are alphabetic. -/
def addedDigits : List Run := [(0x11DE0, 0x11DE9)]

/-- Characters with case of edition 17. -/
def addedCased : List Run :=
  [(0xA7CE, 0xA7CF), (0xA7D2, 0xA7D2), (0xA7D4, 0xA7D4), (0xA7F1, 0xA7F1), (0x16EA0, 0x16EB8),
   (0x16EBB, 0x16ED3)]

/-- Characters of edition 17 that case mapping passes over. -/
def addedCaseIgnorable : List Run :=
  [(0x1ACF, 0x1ADD), (0x1AE0, 0x1AEB), (0xA7F1, 0xA7F1), (0x10EC5, 0x10EC5), (0x10EFA, 0x10EFB),
   (0x11B60, 0x11B60), (0x11B62, 0x11B64), (0x11B66, 0x11B66), (0x11DD9, 0x11DD9),
   (0x16FF2, 0x16FF3), (0x1E6E3, 0x1E6E3), (0x1E6E6, 0x1E6E6), (0x1E6EE, 0x1E6EF),
   (0x1E6F5, 0x1E6F5), (0x1E6FF, 0x1E6FF)]

/-! ## Tests -/

/-- Alphabetic characters. -/
def isAlphabetic (c : Char) : Bool :=
  CharSet.alphabetic.contains c || inRuns addedAlphabetic c.toNat

/-- Alphabetic characters and numbers of every kind. -/
def isAlphanumeric (c : Char) : Bool :=
  isAlphabetic c || (CharSet.category [.nd, .nl, .no]).contains c || inRuns addedDigits c.toNat

/-- Characters that have case.  The voiced pharyngeal fricative, which edition 16 takes for a small
letter, has none. -/
def isCased (c : Char) : Bool :=
  (CharSet.cased.contains c && c.toNat != 0x0295) || inRuns addedCased c.toNat

/-- Characters that are skipped when case mapping looks for the neighbour of a letter. -/
def isCaseIgnorable (c : Char) : Bool :=
  CharSet.caseIgnorable.contains c || inRuns addedCaseIgnorable c.toNat

end Placeholders
