import Placeholders.Text.Run

/-!
# Runs of code points as bytes

In UTF-8 a code point takes one to four bytes: the first tells how many, each of the others has six
bits.  So a run of code points is a few sequences of byte ranges, such that the bytes of a code
point are in the ranges of one sequence exactly if the code point is in the run.

* `Utf8.ByteRange`, `Utf8.sequences` — the sequences of a run.
-/

namespace Placeholders.Utf8

/-- Lowest and highest value of a byte. -/
abbrev ByteRange := Nat × Nat

/-- The numbers from `a` to `b`, read as a first digit and `k` further digits to base 64, as
sequences of digit ranges: those that share the first digit with `a`, those in between, which have
every further digit, and those that share it with `b`. -/
def digitRanges : (k a b : Nat) → List (List (Nat × Nat))
  | 0, a, b => [[(a, b)]]
  | k + 1, a, b =>
    let unit := 64 ^ (k + 1)
    let (first, low) := (a / unit, a % unit)
    let (last, high) := (b / unit, b % unit)
    if first = last then (digitRanges k low high).map ((first, first) :: ·)
    else
      let head := if low = 0 then []
        else (digitRanges k low (unit - 1)).map ((first, first) :: ·)
      let tail := if high = unit - 1 then []
        else (digitRanges k 0 high).map ((last, last) :: ·)
      let least := if low = 0 then first else first + 1
      let most := if high = unit - 1 then last else last - 1
      let middle := if least ≤ most then [(least, most) :: List.replicate (k + 1) (0, 63)] else []
      head ++ middle ++ tail

/-- The runs of code points of one length: first and last, the number of bytes after the first, and
what the first byte has on top of its digit.  Those of three bytes have a gap. -/
def lengths : List (Nat × Nat × Nat × Nat) :=
  [(0x0, 0x7F, 0, 0), (0x80, 0x7FF, 1, 0xC0), (0x800, 0xD7FF, 2, 0xE0), (0xE000, 0xFFFF, 2, 0xE0),
   (0x10000, 0x10FFFF, 3, 0xF0)]

/-- The byte ranges for a sequence of digit ranges. -/
def ofDigits (mark : Nat) : List (Nat × Nat) → List ByteRange
  | [] => []
  | (a, b) :: rest => (mark + a, mark + b) :: rest.map fun (a, b) => (0x80 + a, 0x80 + b)

/-- The sequences of byte ranges of a run, ascending. -/
def sequences (run : Run) : List (List ByteRange) :=
  lengths.flatMap fun (first, last, more, mark) =>
    let a := max run.1 first
    let b := min run.2 last
    if a ≤ b then (digitRanges more a b).map (ofDigits mark) else []

end Placeholders.Utf8
