import Placeholders.Text.Property.Format
import Placeholders.Text.Property.Punctuation
import Placeholders.Text.Segment.Word

/-!
# Classes of characters for sentences

Where a sentence ends depends on classes of characters.

* `lower`, `upper`, `letter`, `numeric` — small letters, capital letters, letters without case, and
  numbers.
* `stop`, `terminal`, `continuing`, `closing` — marks that may or do end a sentence, marks after
  which it goes on, and brackets and quotes after its end.
* `extend`, `format`, `blank`, `separator` — signs, format characters, blanks and ends of
  paragraphs.
* `named?` — the class with a given name.
-/

namespace Placeholders.Segment.Sentence

open CharSet

/-! ## Signs and blanks -/

/-- Marks and joiners. -/
def extend : CharSet := .unions [graphemeExtend, .category [.mc], .runs [(0x200D, 0x200D)]]

/-- Format characters that join or count. -/
def activeFormat : CharSet :=
  .runs
    [(0x0600, 0x0605), (0x06DD, 0x06DD), (0x0890, 0x0891), (0x08E2, 0x08E2), (0x200C, 0x200D),
     (0x110BD, 0x110BD), (0x110CD, 0x110CD), (0xE0020, 0xE007F)]

/-- Format characters. -/
def format : CharSet := .diff (.category [.cf]) activeFormat

/-- Ends of lines and paragraphs, except carriage return and line feed. -/
def separator : CharSet :=
  .runs [(0x0085, 0x0085), (0x2028, 0x2029)]

/-- Blanks inside a line. -/
def blank : CharSet := .diff whiteSpace (.unions [separator, .single '\n', .single '\r'])

/-! ## Letters and numbers -/

/-- Georgian letters whose capital forms start no sentence. -/
def georgianSmall : CharSet :=
  .runs [(0x10D0, 0x10FA), (0x10FD, 0x10FF)]

/-- Small letters. -/
def lower : CharSet := .diff lowercase (.union graphemeExtend georgianSmall)

/-- Georgian capital letters, which start no sentence. -/
def georgianCapital : CharSet :=
  .runs [(0x1C90, 0x1CBA), (0x1CBD, 0x1CBF)]

/-- Capital letters. -/
def upper : CharSet := .diff (.union (.category [.lt]) uppercase) georgianCapital

/-- Letters without case, and a Hebrew mark that is used like one. -/
def letter : CharSet :=
  .union (.diff alphabetic (.unions [lower, upper, extend])) (.runs [(0x05F3, 0x05F3)])

/-- Digits and signs of numbers. -/
def numeric : CharSet := .union Word.numeric (.runs [(0x066C, 0x066C)])

/-! ## Marks -/

/-- Marks that may end a sentence or an abbreviation. -/
def stop : CharSet :=
  .runs [(0x002E, 0x002E), (0x2024, 0x2024), (0xFE52, 0xFE52), (0xFF0E, 0xFF0E)]

/-- Marks that end a sentence. -/
def terminal : CharSet := .diff sentenceTerminal stop

/-- Marks after which a sentence goes on. -/
def continuing : CharSet :=
  .runs
    [(0x002C, 0x002D), (0x003A, 0x003B), (0x037E, 0x037E), (0x055D, 0x055D), (0x060C, 0x060D),
     (0x07F8, 0x07F8), (0x1802, 0x1802), (0x1808, 0x1808), (0x2013, 0x2014), (0x3001, 0x3001),
     (0xFE10, 0xFE11), (0xFE13, 0xFE14), (0xFE31, 0xFE32), (0xFE50, 0xFE51), (0xFE54, 0xFE55),
     (0xFE58, 0xFE58), (0xFE63, 0xFE63), (0xFF0C, 0xFF0D), (0xFF1A, 0xFF1B), (0xFF64, 0xFF64)]

/-- Ornamental quotes and editorial brackets. -/
def ornament : CharSet :=
  .runs
    [(0x275B, 0x2760), (0x2E00, 0x2E01), (0x2E06, 0x2E08), (0x2E0B, 0x2E0B), (0x1F676, 0x1F678)]

/-- Straight quotes of full width, which close nothing. -/
def wideQuote : CharSet :=
  .runs [(0xFF02, 0xFF02), (0xFF07, 0xFF07)]

/-- Brackets and quotes. -/
def closing : CharSet :=
  .union (.diff (.union (.category [.ps, .pe, .pi, .pf]) quotationMark) wideQuote) ornament

/-! ## Names -/

/-- The classes by their names in loose form. -/
def classes : List (List String × CharSet) :=
  [(["at", "aterm"], stop),
   (["cl", "close"], closing),
   (["cr"], .single '\r'),
   (["ex", "extend"], extend),
   (["fo", "format"], format),
   (["lf"], .single '\n'),
   (["lo", "lower"], lower),
   (["nu", "numeric"], numeric),
   (["le", "oletter"], letter),
   (["sc", "scontinue"], continuing),
   (["st", "sterm"], terminal),
   (["se", "sep"], separator),
   (["sp"], blank),
   (["up", "upper"], upper)]

/-- The class that has this name in loose form. -/
def named? (name : String) : Option CharSet :=
  (classes.find? fun entry => entry.1.contains name).map (·.2)

end Placeholders.Segment.Sentence
