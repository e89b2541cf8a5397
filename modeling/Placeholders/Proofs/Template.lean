import Mathlib.Tactic.Common
import Placeholders.Filter.Substitution
import Placeholders.Proofs.Template.Scan

/-!
# Templates that give a text verbatim

A value is not put into a text as it is: it is escaped, and the template reader undoes the escape
for every match.  `pieces_escapeLiteral_append` says that an escaped text is read as its
characters, whatever template follows it; so no backslash or dollar sign of a value can begin a
group, neither with what comes after it in the value nor with what comes after the value.

**`replaceByTemplate_escapeLiteral`** is what the rest of the library needs: replacing matches by an
escaped text is replacing them by the text.
-/

namespace Placeholders

namespace Template

/-- An escaped character is read as this character, and takes nothing of what follows. -/
lemma pieces_backslash {c : Char} (hc : c = '\\' ∨ c = '$') (rest : List Char) :
    pieces ('\\' :: c :: rest) = .char c :: pieces rest := by
  rcases hc with rfl | rfl <;> rfl

lemma pieces_ordinary {c : Char} (hc : ¬ (c = '\\' ∨ c = '$')) (rest : List Char) :
    pieces (c :: rest) = .char c :: pieces rest := by
  rw [not_or] at hc
  simp [pieces, piecesAfter, piece, hc]

@[simp] lemma replaceChar_cons (old : Char) (new : List Char) (c : Char) (cs : List Char) :
    replaceChar old new (c :: cs)
      = (if c = old then new else [c]) ++ replaceChar old new cs := rfl

/-- Backslashes are doubled before there are any that escape a dollar sign, so each character is
escaped on its own. -/
lemma escapeLiteral_cons (c : Char) (value : List Char) :
    escapeLiteral (c :: value)
      = (if c = '\\' ∨ c = '$' then ['\\', c] else [c]) ++ escapeLiteral value := by
  by_cases hbackslash : c = '\\'
  · subst hbackslash
    simp [escapeLiteral]
  · by_cases hdollar : c = '$'
    · subst hdollar
      simp [escapeLiteral]
    · simp [escapeLiteral, hbackslash, hdollar]

/-- **An escaped text is read as its characters**, whatever template follows it. -/
theorem pieces_escapeLiteral_append (value rest : List Char) :
    pieces (escapeLiteral value ++ rest) = value.map .char ++ pieces rest := by
  induction value with
  | nil => rfl
  | cons c value ih =>
      rw [escapeLiteral_cons, List.map_cons, List.cons_append, ← ih]
      split_ifs with hc
      · exact pieces_backslash hc _
      · exact pieces_ordinary hc _

lemma expand_escapeLiteral (groups : Groups) (value : List Char) :
    expand groups (escapeLiteral value) = value := by
  have h := pieces_escapeLiteral_append value []
  rw [List.append_nil] at h
  rw [expand, h]
  simp [pieces, piecesAfter, Piece.expand, List.flatMap_map]

end Template

/-- **Replacing matches by an escaped text is replacing them by the text**, whatever their groups
are. -/
theorem replaceByTemplate_escapeLiteral (p : Pattern) (value text : String) :
    Substitution.replaceByTemplate p (String.ofList (Template.escapeLiteral value.toList)) text
      = p.replaceAll (fun _ => value.toList) text := by
  have hfill : Template.fill (Template.escapeLiteral value.toList) = fun _ => value.toList := by
    funext groups
    rw [Template.fill_eq, Template.expand_escapeLiteral]
  rw [Substitution.replaceByTemplate, String.toList_ofList, hfill]

end Placeholders
