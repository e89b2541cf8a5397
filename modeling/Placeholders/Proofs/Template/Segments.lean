import Mathlib.Data.List.Basic
import Placeholders.Filter.CamelCase
import Placeholders.Proofs.Template

/-!
# Templates made of literals and groups

Programs that make templates put escaped texts and groups in braces behind each other.  Whatever
comes next to whatever, such a template gives back just what it was made of: an escaped text is read
to its end before anything behind it, and a brace ends the number of a group.

* `Segment` — a literal text, or a group; `Segment.encode`, `Segment.text` — how a template says it,
  and what it stands for.
* `pieces_encode_append` — a segment is read on its own, whatever follows.
* **`write?_encode`** — the scan gives back what the template was made of.
-/

namespace Placeholders.Template

/-- What templates are made of. -/
inductive Segment where
  | literal (value : List Char)
  | group (n : Fin 100)

/-- How a template says it: literals are escaped, and the decimal number of a group is in braces. -/
def Segment.encode : Segment → List Char
  | .literal value => escapeLiteral value
  | .group n => '$' :: '\x7b' :: (Nat.toDigits 10 n ++ ['\x7d'])

/-- What it stands for in a match. -/
def Segment.text (groups : Groups) : Segment → List Char
  | .literal value => value
  | .group n => (groups n).getD []

/-- The pieces that it is read as. -/
def Segment.pieces : Segment → List Piece
  | .literal value => value.map .char
  | .group n => [.group n]

lemma flatMap_expand_pieces (groups : Groups) (s : Segment) :
    s.pieces.flatMap (Piece.expand groups) = s.text groups := by
  cases s with
  | literal value =>
      rw [Segment.pieces, List.flatMap_map]
      exact List.flatMap_singleton' value
  | group n => simp [Segment.pieces, Segment.text, Piece.expand]

/-- The decimal number of such a group has one or two digits. -/
lemma numeral_toDigits (n : Fin 100) : Numeral (Nat.toDigits 10 n) n := by
  have hwritten : ∀ n : Fin 100, Nat.toDigits 10 n = if n.val < 10 then [Nat.digitChar n]
      else [Nat.digitChar (n.val / 10), Nat.digitChar (n.val % 10)] := by decide
  have hread : ∀ d : Fin 10, decimalDigit? (Nat.digitChar d) = some d.val := by decide
  rw [hwritten]
  split_ifs with hn
  · exact .one (hread ⟨n, hn⟩)
  · have htens := hread ⟨n.val / 10, by omega⟩
    have hones := hread ⟨n.val % 10, by omega⟩
    have hnumeral := Numeral.two htens hones
    rwa [Nat.div_add_mod] at hnumeral

/-- A segment is read on its own, whatever follows it. -/
lemma pieces_encode_append (s : Segment) (rest : List Char) :
    pieces (s.encode ++ rest) = s.pieces ++ pieces rest := by
  cases s with
  | literal value => exact pieces_escapeLiteral_append value rest
  | group n =>
      rw [Segment.encode, List.cons_append, pieces_cons, piece_braced (numeral_toDigits n),
        List.drop_left]
      rfl

lemma pieces_encode (segments : List Segment) :
    pieces (segments.flatMap Segment.encode) = segments.flatMap Segment.pieces := by
  induction segments with
  | nil => rfl
  | cons s segments ih =>
      rw [List.flatMap_cons, pieces_encode_append, ih, List.flatMap_cons]

/-- **A template of literals and groups gives back what it was made of.**  The templates that rules
and word separators make are of this kind. -/
theorem write?_encode (groups : Groups) (segments : List Segment) (written : List Char) :
    write? groups (segments.flatMap Segment.encode) written
        = some (written ++ segments.flatMap (Segment.text groups))
      ∧ (∀ value, escapeLiteral value = [Segment.literal value].flatMap Segment.encode)
      ∧ ∀ separator : String, (CamelSplit.template separator).toList
          = [.group 1, .literal separator.toList, .group 2].flatMap Segment.encode := by
  refine ⟨?_, fun value => (List.append_nil _).symm, fun separator => ?_⟩
  · rw [write?_eq, expand, pieces_encode, List.flatMap_assoc]
    simp only [flatMap_expand_pieces]
  · have hgroup1 : "$\x7b1\x7d".toList = (Segment.group 1).encode := by decide
    have hgroup2 : "$\x7b2\x7d".toList = (Segment.group 2).encode := by decide
    simp [CamelSplit.template, hgroup1, hgroup2, Segment.encode]

end Placeholders.Template
