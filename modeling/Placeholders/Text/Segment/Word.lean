import Placeholders.Text.Property.Emoji
import Placeholders.Text.Property.Ideograph
import Placeholders.Text.Property.Letter
import Placeholders.Text.Property.Mark
import Placeholders.Text.Script.Runs

/-!
# Classes of characters for words

Where a word ends depends on classes of characters.

* `letter`, `hebrewLetter`, `katakana` — letters of words that blanks separate, and two scripts with
  rules of their own.
* `numeric`, `midNum`, `midLetter`, `midNumLet`, `joining` — numbers, what may stand inside numbers
  and words, and what ties them together.
* `extend`, `format`, `blank`, `newline` — signs, format characters and blanks.
* `named?` — the class with a given name.
-/

namespace Placeholders.Segment.Word

open CharSet

/-! ## Signs and blanks -/

/-- Marks, joiners and skin tones. -/
def extend : CharSet := .unions [graphemeExtend, .category [.mc], emojiModifier]

/-- Format characters that separate, join or count. -/
def activeFormat : CharSet :=
  .runs
    [(0x0600, 0x0605), (0x06DD, 0x06DD), (0x070F, 0x070F), (0x0890, 0x0891), (0x08E2, 0x08E2),
     (0x200B, 0x200D), (0x110BD, 0x110BD), (0x110CD, 0x110CD), (0xE0020, 0xE007F)]

/-- Format characters. -/
def format : CharSet := .diff (.category [.cf]) activeFormat

/-- Blanks, except those that do not break. -/
def blank : CharSet :=
  .diff (.category [.zs]) (.runs [(0x00A0, 0x00A0), (0x2007, 0x2007), (0x202F, 0x202F)])

/-- Ends of lines, except carriage return and line feed. -/
def newline : CharSet :=
  .runs [(0x000B, 0x000C), (0x0085, 0x0085), (0x2028, 0x2029)]

/-! ## Letters -/

/-- Katakana signs that other scripts use too. -/
def sharedKatakana : CharSet :=
  .runs [(0x3031, 0x3035), (0x309B, 0x309C), (0x30A0, 0x30A0), (0x30FC, 0x30FC), (0xFF70, 0xFF70)]

/-- Katakana. -/
def katakana : CharSet := .union (.runs Script.katakanaRuns) sharedKatakana

/-- Hebrew letters. -/
def hebrewLetter : CharSet := .inter (.runs Script.hebrewRuns) (.category [.lo])

/-- Letters of smaller scripts that put no blanks between words. -/
def minorUnspaced : CharSet :=
  .runs
    [(0x1950, 0x196D), (0x1970, 0x1974), (0x1980, 0x19AB), (0x19B0, 0x19C9), (0x1A20, 0x1A54),
     (0x1AA7, 0x1AA7), (0xAA80, 0xAAAF), (0xAAB1, 0xAAB1), (0xAAB5, 0xAAB6), (0xAAB9, 0xAABD),
     (0xAAC0, 0xAAC0), (0xAAC2, 0xAAC2), (0xAADB, 0xAADD), (0x11700, 0x1171A), (0x11740, 0x11746)]

/-- Letters of scripts that put no blanks between words. -/
def unspaced : CharSet :=
  .unions
    [ideographic, katakana, .runs Script.hiraganaRuns, .runs Script.thaiRuns, .runs Script.laoRuns,
     .runs Script.myanmarRuns, .runs Script.khmerRuns, minorUnspaced]

/-- Marks and symbols that are used like letters. -/
def furtherLetter : CharSet :=
  .runs
    [(0x00B8, 0x00B8), (0x02C2, 0x02C5), (0x02D2, 0x02D7), (0x02DE, 0x02DF), (0x02E5, 0x02EB),
     (0x02ED, 0x02ED), (0x02EF, 0x02FF), (0x055A, 0x055C), (0x055E, 0x055E), (0x058A, 0x058A),
     (0x05F3, 0x05F3), (0x070F, 0x070F), (0xA708, 0xA716), (0xA720, 0xA721), (0xA789, 0xA78A),
     (0xAB5B, 0xAB5B)]

/-- Letters of words that blanks separate. -/
def letter : CharSet :=
  .union (.diff alphabetic (.unions [unspaced, extend, hebrewLetter])) furtherLetter

/-! ## Numbers -/

/-- Signs of numbers that are no decimal digits. -/
def furtherNumeric : CharSet :=
  .runs
    [(0x0600, 0x0605), (0x066B, 0x066B), (0x06DD, 0x06DD), (0x0890, 0x0891), (0x08E2, 0x08E2),
     (0x19DA, 0x19DA), (0x110BD, 0x110BD), (0x110CD, 0x110CD)]

/-- Digits and signs of numbers. -/
def numeric : CharSet := .union (.category [.nd]) furtherNumeric

/-! ## Inside words and numbers -/

/-- What stands inside numbers. -/
def midNum : CharSet :=
  .runs
    [(0x002C, 0x002C), (0x003B, 0x003B), (0x037E, 0x037E), (0x0589, 0x0589), (0x060C, 0x060D),
     (0x066C, 0x066C), (0x07F8, 0x07F8), (0x2044, 0x2044), (0xFE50, 0xFE50), (0xFE54, 0xFE54),
     (0xFF0C, 0xFF0C), (0xFF1B, 0xFF1B)]

/-- What stands inside words. -/
def midLetter : CharSet :=
  .runs
    [(0x003A, 0x003A), (0x00B7, 0x00B7), (0x0387, 0x0387), (0x055F, 0x055F), (0x05F4, 0x05F4),
     (0x2027, 0x2027), (0xFE13, 0xFE13), (0xFE55, 0xFE55), (0xFF1A, 0xFF1A)]

/-- What stands inside words and numbers. -/
def midNumLet : CharSet :=
  .runs
    [(0x002E, 0x002E), (0x2018, 0x2019), (0x2024, 0x2024), (0xFE52, 0xFE52), (0xFF07, 0xFF07),
     (0xFF0E, 0xFF0E)]

/-- What ties words and numbers together. -/
def joining : CharSet := .union (.category [.pc]) (.runs [(0x202F, 0x202F)])

/-! ## Names -/

/-- The classes by their names in loose form. -/
def classes : List (List String × CharSet) :=
  [(["le", "aletter"], letter),
   (["cr"], .single '\r'),
   (["dq", "doublequote"], .runs [(0x0022, 0x0022)]),
   (["extend"], extend),
   (["ex", "extendnumlet"], joining),
   (["fo", "format"], format),
   (["hl", "hebrewletter"], hebrewLetter),
   (["ka", "katakana"], katakana),
   (["lf"], .single '\n'),
   (["ml", "midletter"], midLetter),
   (["mn", "midnum"], midNum),
   (["mb", "midnumlet"], midNumLet),
   (["nl", "newline"], newline),
   (["nu", "numeric"], numeric),
   (["ri", "regionalindicator"], regionalIndicator),
   (["sq", "singlequote"], .runs [(0x0027, 0x0027)]),
   (["wsegspace"], blank),
   (["zwj"], .runs [(0x200D, 0x200D)])]

/-- The class that has this name in loose form. -/
def named? (name : String) : Option CharSet :=
  (classes.find? fun entry => entry.1.contains name).map (·.2)

end Placeholders.Segment.Word
