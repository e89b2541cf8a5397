import Placeholders.Text.Property.Emoji
import Placeholders.Text.Property.Format

/-!
# Classes of characters for graphemes

Where one character as seen by a reader ends and the next begins depends on classes of characters.

* `control`, `extend`, `prepend`, `spacingMark` — what stands alone, and what is drawn to the
  character before or after it.
* `leading`, `vowel`, `trailing`, `openSyllable`, `closedSyllable` — the parts of Korean syllables
  and the syllables without and with a trailing consonant.
* `named?` — the class with a given name.
-/

namespace Placeholders.Segment.Grapheme

open CharSet

/-! ## Signs -/

/-- Carriage return and line feed. -/
def lineEnd : CharSet := .runs [(0x000A, 0x000A), (0x000D, 0x000D)]

/-- Controls, except those that are part of a grapheme. -/
def control : CharSet :=
  .diff
    (.union (.category [.zl, .zp, .cc, .cf]) (.inter (.category [.cn]) defaultIgnorable))
    (.unions [lineEnd, joinControl, prependedMark, graphemeExtend])

/-- Characters that extend the one before. -/
def extend : CharSet := .union graphemeExtend emojiModifier

/-- Letters that are drawn to the one after them. -/
def repha : CharSet :=
  .runs
    [(0x0D4E, 0x0D4E), (0x111C2, 0x111C3), (0x113D1, 0x113D1), (0x1193F, 0x1193F),
     (0x11941, 0x11941), (0x11A3A, 0x11A3A), (0x11A84, 0x11A89), (0x11D46, 0x11D46),
     (0x11F02, 0x11F02)]

/-- Characters that are drawn to the one after them. -/
def prepend : CharSet := .union prependedMark repha

/-- Spacing marks that do not extend the character before. -/
def apartMark : CharSet :=
  .runs
    [(0x102B, 0x102C), (0x1038, 0x1038), (0x1062, 0x1064), (0x1067, 0x106D), (0x1083, 0x1083),
     (0x1087, 0x108C), (0x108F, 0x108F), (0x109A, 0x109C), (0x1A61, 0x1A61), (0x1A63, 0x1A64),
     (0xAA7B, 0xAA7B), (0xAA7D, 0xAA7D), (0x11720, 0x11721)]

/-- Spacing marks that extend the character before, and vowels like them. -/
def spacingMark : CharSet :=
  .union (.diff (.category [.mc]) (.union graphemeExtend apartMark))
    (.runs [(0x0E33, 0x0E33), (0x0EB3, 0x0EB3)])

/-! ## Korean syllables -/

/-- Leading consonants. -/
def leading : CharSet :=
  .runs [(0x1100, 0x115F), (0xA960, 0xA97C)]

/-- Vowels. -/
def vowel : CharSet :=
  .runs [(0x1160, 0x11A7), (0xD7B0, 0xD7C6), (0x16D63, 0x16D63), (0x16D67, 0x16D6A)]

/-- Trailing consonants. -/
def trailing : CharSet :=
  .runs [(0x11A8, 0x11FF), (0xD7CB, 0xD7FB)]

/-- Syllables without a trailing consonant.  Each is followed by the 27 that have one. -/
def openSyllable : CharSet :=
  .runs ((List.range 399).map fun k => (0xAC00 + 28 * k, 0xAC00 + 28 * k))

/-- Syllables with a trailing consonant. -/
def closedSyllable : CharSet := .diff (.runs [(0xAC00, 0xD7A3)]) openSyllable

/-! ## Names -/

/-- The classes by their names in loose form. -/
def classes : List (List String × CharSet) :=
  [(["cn", "control"], control),
   (["cr"], .single '\r'),
   (["ex", "extend"], extend),
   (["l"], leading),
   (["lf"], .single '\n'),
   (["lv"], openSyllable),
   (["lvt"], closedSyllable),
   (["pp", "prepend"], prepend),
   (["ri", "regionalindicator"], regionalIndicator),
   (["sm", "spacingmark"], spacingMark),
   (["t"], trailing),
   (["v"], vowel),
   (["zwj"], .runs [(0x200D, 0x200D)])]

/-- The class that has this name in loose form. -/
def named? (name : String) : Option CharSet :=
  (classes.find? fun entry => entry.1.contains name).map (·.2)

end Placeholders.Segment.Grapheme
