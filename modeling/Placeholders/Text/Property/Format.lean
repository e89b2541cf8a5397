import Placeholders.Text.Property.Mark

/-!
# Blanks, format characters and code points with a special role

* `whiteSpace`, `joinControl`, `bidiControl` — blanks, and controls for shaping and direction.
* `variationSelector`, `defaultIgnorable` — what is not shown.
* `noncharacter`, `deprecated` — what is never used, and what should not be.
-/

namespace Placeholders.CharSet

/-! ## Blanks and controls -/

/-- White space. -/
def whiteSpace : CharSet :=
  .runs
    [(0x0009, 0x000D), (0x0020, 0x0020), (0x0085, 0x0085), (0x00A0, 0x00A0), (0x1680, 0x1680),
     (0x2000, 0x200A), (0x2028, 0x2029), (0x202F, 0x202F), (0x205F, 0x205F), (0x3000, 0x3000)]

/-- The zero-width joiner and non-joiner. -/
def joinControl : CharSet :=
  .runs [(0x200C, 0x200D)]

/-- Controls for the direction of a text. -/
def bidiControl : CharSet :=
  .runs [(0x061C, 0x061C), (0x200E, 0x200F), (0x202A, 0x202E), (0x2066, 0x2069)]

/-! ## Invisible characters -/

/-- Selectors of a variant of the character before. -/
def variationSelector : CharSet :=
  .runs [(0x180B, 0x180D), (0x180F, 0x180F), (0xFE00, 0xFE0F), (0xE0100, 0xE01EF)]

/-- Fillers and reserved code points that are not shown. -/
def otherDefaultIgnorable : CharSet :=
  .runs
    [(0x034F, 0x034F), (0x115F, 0x1160), (0x17B4, 0x17B5), (0x2065, 0x2065), (0x3164, 0x3164),
     (0xFFA0, 0xFFA0), (0xFFF0, 0xFFF8), (0xE0000, 0xE0000), (0xE0002, 0xE001F),
     (0xE0080, 0xE00FF), (0xE01F0, 0xE0FFF)]

/-- Format characters that are shown. -/
def shownFormat : CharSet :=
  .runs [(0xFFF9, 0xFFFB), (0x13430, 0x13440)]

/-- Characters that are not shown, unless a program knows how. -/
def defaultIgnorable : CharSet :=
  .diff (.unions [otherDefaultIgnorable, .category [.cf], variationSelector])
    (.unions [whiteSpace, shownFormat, prependedMark])

/-! ## Unused -/

/-- Code points that are never assigned. -/
def noncharacter : CharSet :=
  .runs
    [(0xFDD0, 0xFDEF), (0xFFFE, 0xFFFF), (0x1FFFE, 0x1FFFF), (0x2FFFE, 0x2FFFF),
     (0x3FFFE, 0x3FFFF), (0x4FFFE, 0x4FFFF), (0x5FFFE, 0x5FFFF), (0x6FFFE, 0x6FFFF),
     (0x7FFFE, 0x7FFFF), (0x8FFFE, 0x8FFFF), (0x9FFFE, 0x9FFFF), (0xAFFFE, 0xAFFFF),
     (0xBFFFE, 0xBFFFF), (0xCFFFE, 0xCFFFF), (0xDFFFE, 0xDFFFF), (0xEFFFE, 0xEFFFF),
     (0xFFFFE, 0xFFFFF), (0x10FFFE, 0x10FFFF)]

/-- Characters that are not to be used any more. -/
def deprecated : CharSet :=
  .runs
    [(0x0149, 0x0149), (0x0673, 0x0673), (0x0F77, 0x0F77), (0x0F79, 0x0F79), (0x17A3, 0x17A4),
     (0x206A, 0x206F), (0x2329, 0x232A), (0xE0001, 0xE0001)]

end Placeholders.CharSet
