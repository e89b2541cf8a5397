import Mathlib.Tactic.Common
import Mathlib.Data.List.Infix

/-!
# Replacing words in a text

What it means to replace words by texts, with no pattern in sight.  A table lists words and the text
for each.  `replaceWords` goes over a text once, from left to right: where a word of the table
begins, its text is put there and the pass goes on behind the word; every other character stays.
With one word in the table this replaces its leftmost occurrences that do not overlap.

The pass never looks at a text that it has put in.  That is the difference between one pass with a
table and one pass for each of its words, and `Proofs/Text/Chunk.lean` says when there is none.

* `replaceWords`, `replaceWordsAfter` — the pass; the second one is inside of a word.
* `replaceWords_of_find`, `replaceWords_of_find_none` — the two steps that a pass can make.
* `Replaced` — all leftmost occurrences of one word that do not overlap, without a pass.
* **`replaced_replaceWords`** — a pass with one word replaces just these.
* `replaceWords_of_not_isInfix` — where the word does not occur, nothing changes.
-/

namespace Placeholders.Text

/-- One pass over a text of which the first `skip` characters belong to a word already replaced. -/
def replaceWordsAfter (table : List (List Char × List Char)) : (skip : Nat) → List Char → List Char
  | _, [] => []
  | skip + 1, _ :: rest => replaceWordsAfter table skip rest
  | 0, c :: rest =>
    match table.find? fun entry => entry.1.isPrefixOf (c :: rest) with
    | some (word, text) => text ++ replaceWordsAfter table (word.length - 1) rest
    | none => c :: replaceWordsAfter table 0 rest

/-- Replaces every word of the table by its text, in one pass from left to right. -/
def replaceWords (table : List (List Char × List Char)) (text : List Char) : List Char :=
  replaceWordsAfter table 0 text

variable {table : List (List Char × List Char)}

/-- The rest of a word is passed over. -/
lemma replaceWordsAfter_append (word rest : List Char) :
    replaceWordsAfter table word.length (word ++ rest) = replaceWords table rest := by
  induction word with
  | nil => rfl
  | cons c word ih => simpa [replaceWordsAfter] using ih

lemma replaceWords_of_find_none {c : Char} {rest : List Char}
    (h : table.find? (fun entry => entry.1.isPrefixOf (c :: rest)) = none) :
    replaceWords table (c :: rest) = c :: replaceWords table rest := by
  simp only [replaceWords, replaceWordsAfter, h]

/-- A word that is found is replaced, and the pass goes on behind it. -/
lemma replaceWords_of_find {word text rest : List Char} (hne : word ≠ [])
    (h : table.find? (fun entry => entry.1.isPrefixOf (word ++ rest)) = some (word, text)) :
    replaceWords table (word ++ rest) = text ++ replaceWords table rest := by
  obtain ⟨c, word, rfl⟩ := List.exists_cons_of_ne_nil hne
  rw [List.cons_append] at h ⊢
  simp only [replaceWords, replaceWordsAfter, h]
  rw [List.length_cons, Nat.add_sub_cancel, replaceWordsAfter_append, replaceWords]

/-! ## One word -/

/-- The right text comes from the left one by replacing the leftmost occurrence of the word, then
the leftmost one behind it, and so on until there is none. -/
inductive Replaced (word new : List Char) : List Char → List Char → Prop
  | absent {text : List Char} : ¬ word <:+: text → Replaced word new text text
  | leftmost {before after out : List Char} :
      (∀ i < before.length, ¬ word <+: (before ++ word ++ after).drop i) →
      Replaced word new after out →
      Replaced word new (before ++ word ++ after) (before ++ new ++ out)

variable {word new : List Char}

/-- A character at which the word does not begin stays. -/
lemma Replaced.cons {a : Char} {text out : List Char} (hno : ¬ word <+: a :: text)
    (h : Replaced word new text out) : Replaced word new (a :: text) (a :: out) := by
  cases h with
  | absent habsent =>
      refine .absent fun hin => ?_
      rcases List.infix_cons_iff.mp hin with hpre | hin
      · exact hno hpre
      · exact habsent hin
  | @leftmost before after out hfirst h =>
      have hfirst' : ∀ i < (a :: before).length, ¬ word <+: (a :: before ++ word ++ after).drop i
        | 0, _ => hno
        | i + 1, hi => hfirst i (Nat.lt_of_succ_lt_succ hi)
      exact .leftmost hfirst' h

/-- **A pass with one word replaces its leftmost occurrences that do not overlap**, and nothing
else. -/
theorem replaced_replaceWords (hne : word ≠ []) (new : List Char) (text : List Char) :
    Replaced word new text (replaceWords [(word, new)] text) := by
  by_cases hpre : word <+: text
  · obtain ⟨rest, hrest⟩ := hpre
    have hshort : rest.length < text.length := by
      have hpos := List.length_pos_of_ne_nil hne
      rw [← hrest, List.length_append]
      omega
    have hfind : [(word, new)].find? (fun entry => entry.1.isPrefixOf (word ++ rest))
        = some (word, new) := by
      simp [List.isPrefixOf_iff_prefix]
    rw [← hrest, replaceWords_of_find hne hfind]
    have hfirst : ∀ i < ([] : List Char).length, ¬ word <+: ([] ++ word ++ rest).drop i :=
      fun i hi => absurd hi (Nat.not_lt_zero i)
    exact .leftmost hfirst (replaced_replaceWords hne new rest)
  · cases text with
    | nil => exact .absent fun hin => hpre (List.infix_nil.mp hin ▸ List.nil_prefix)
    | cons a rest =>
        have hfind : [(word, new)].find? (fun entry => entry.1.isPrefixOf (a :: rest)) = none := by
          simp [List.isPrefixOf_iff_prefix, hpre]
        rw [replaceWords_of_find_none hfind]
        exact (replaced_replaceWords hne new rest).cons hpre
termination_by text.length

/-- A text in which the word does not occur comes out as it is. -/
lemma Replaced.eq_of_not_isInfix {text out : List Char} (h : Replaced word new text out)
    (hno : ¬ word <:+: text) : out = text := by
  cases h with
  | absent => rfl
  | @leftmost before after out => exact absurd ⟨before, after, rfl⟩ hno

lemma replaceWords_of_not_isInfix {text : List Char} (hne : word ≠ []) (hno : ¬ word <:+: text) :
    replaceWords [(word, new)] text = text :=
  (replaced_replaceWords hne new text).eq_of_not_isInfix hno

end Placeholders.Text
