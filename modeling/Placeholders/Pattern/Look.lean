import Placeholders.Text.Property

/-!
# Assertions

* `Look` — an assertion about the characters on both sides of a position.
* `Look.holds` — when it holds.
-/

namespace Placeholders.Pattern

/-- An assertion about a position. -/
inductive Look where
  | start
  | stop
  | lineStart
  | lineStop
  /-- start of a line where a carriage return may come before the line feed -/
  | anyLineStart
  /-- end of a line where a carriage return may come before the line feed -/
  | anyLineStop
  | wordEdge (ascii : Bool)
  | noWordEdge (ascii : Bool)
  | wordStart (ascii : Bool)
  | wordStop (ascii : Bool)
  | noWordBefore (ascii : Bool)
  | noWordAfter (ascii : Bool)
  deriving DecidableEq

namespace Look

/-- Is there a word character? -/
def isWordAt (ascii : Bool) : Option Char → Bool
  | none => false
  | some c => if ascii then isAsciiWord c else isWord c

/-- Does the assertion hold between these two characters?  At the ends of the text there is none
on one side. -/
def holds : Look → (before after : Option Char) → Bool
  | .start, before, _ => before.isNone
  | .stop, _, after => after.isNone
  | .lineStart, before, _ => before.isNone || before == some '\n'
  | .lineStop, _, after => after.isNone || after == some '\n'
  | .anyLineStart, before, after =>
    before.isNone || before == some '\n' || (before == some '\r' && after != some '\n')
  | .anyLineStop, before, after =>
    after.isNone || after == some '\r' || (after == some '\n' && before != some '\r')
  | .wordEdge ascii, before, after => isWordAt ascii before != isWordAt ascii after
  | .noWordEdge ascii, before, after => isWordAt ascii before == isWordAt ascii after
  | .wordStart ascii, before, after => !isWordAt ascii before && isWordAt ascii after
  | .wordStop ascii, before, after => isWordAt ascii before && !isWordAt ascii after
  | .noWordBefore ascii, before, _ => !isWordAt ascii before
  | .noWordAfter ascii, _, after => !isWordAt ascii after

end Look

end Placeholders.Pattern
