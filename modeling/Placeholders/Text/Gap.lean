import Placeholders.Text.CharSet

/-!
# The gap between the characters

The code points from D800 to DFFF are no characters.  A set is made of ranges, and a range may pass
over this gap.  What lies between the ranges of a set is its complement, but between a range that
ends right before the gap and one that begins right after it there is no character.  There the
characters on both sides of the gap stand for it.

* `CharSet.spansGap` — does a range of the set pass over the gap?
* `CharSet.between` — what lies between the ranges of a set.
-/

namespace Placeholders.CharSet

/-- The last character before the gap. -/
def beforeGap : Char := '\ud7ff'

/-- The first character after the gap. -/
def afterGap : Char := '\ue000'

/-- Does a range of the set pass over the gap?  A difference keeps such a range if it takes neither
of its characters beside the gap away.  Among the categories, only what is unassigned together with
what is for private use comes from both sides. -/
def spansGap : CharSet → Bool
  | .none => false
  | .single _ => false
  | .range first last => first ≤ beforeGap && afterGap ≤ last
  | .category categories => categories.contains .cn && categories.contains .co
  | .runs rs => rs.any fun run => run.1 ≤ beforeGap.toNat && afterGap.toNat ≤ run.2
  | .union a b => a.spansGap || b.spansGap
  | .inter a b => a.spansGap && b.spansGap
  | .diff a b => a.spansGap && !b.contains beforeGap && !b.contains afterGap
  | .compl a => !a.contains beforeGap && !a.contains afterGap
  | .folded _ a => a.spansGap

/-- What lies between the ranges of a set: its complement, and the characters on both sides of the
gap if they are in the set but in no range that passes over it. -/
def between (a : CharSet) : CharSet :=
  if a.contains beforeGap && a.contains afterGap && !a.spansGap then
    .union (.compl a) (.range beforeGap afterGap)
  else .compl a

end Placeholders.CharSet
