import Mathlib.Data.List.Basic
import Placeholders.Template

/-!
# The grammar of templates

Which texts stand for something else in a template is said here once more, as a grammar and without
going from character to character.

* `Numeral` — one or two digits; `Form` — a backslash or a dollar sign with what belongs to it.
* `Reading` — a template as forms and characters: a form is taken wherever one begins, and of
  several the longest one; a character at which none begins stands for itself.
* `piece_backslash`, `piece_dollar` — the pieces that begin with a mark.
* `form_or_char`, `piece_of_form_append` — a piece is the longest form at its place.
* **`reading_iff`** — the pieces of a template are its one and only reading.
-/

namespace Placeholders.Template

variable {c : Char} {cs t r text : List Char} {p q : Piece} {n width : Nat}

/-! ## Forms and readings -/

/-- One or two ASCII digits and the number that they denote. -/
inductive Numeral : List Char → Nat → Prop
  | one {a : Char} {m : Nat} (ha : decimalDigit? a = some m) : Numeral [a] m
  | two {a b : Char} {m n : Nat} (ha : decimalDigit? a = some m) (hb : decimalDigit? b = some n) :
      Numeral [a, b] (10 * m + n)

/-- A text that stands for something else, and the piece that it stands for. -/
inductive Form : List Char → Piece → Prop
  | escape {c : Char} (hc : c = '\\' ∨ c = '$') : Form ['\\', c] (.char c)
  | group {mark : Char} {digits : List Char} {n : Nat} (hmark : mark = '\\' ∨ mark = '$')
      (hdigits : Numeral digits n) : Form (mark :: digits) (.group n)
  | braced {digits : List Char} {n : Nat} (hdigits : Numeral digits n) :
      Form ('$' :: '\x7b' :: (digits ++ ['\x7d'])) (.group n)

/-- A template as a sequence of pieces, from left to right. -/
inductive Reading : List Char → List Piece → Prop
  | nil : Reading [] []
  /-- the longest form that begins here, and what comes after it -/
  | form {text rest : List Char} {p : Piece} {ps : List Piece} (hform : Form text p)
      (hlongest : ∀ longer q, Form longer q → longer <+: text ++ rest →
        longer.length ≤ text.length)
      (hrest : Reading rest ps) : Reading (text ++ rest) (p :: ps)
  /-- a character at which no form begins, and what comes after it -/
  | char {c : Char} {rest : List Char} {ps : List Piece}
      (hnone : ∀ text p, Form text p → ¬ text <+: c :: rest)
      (hrest : Reading rest ps) : Reading (c :: rest) (.char c :: ps)

lemma isDigit_of_decimalDigit? {m : Nat} (h : decimalDigit? c = some m) : c.isDigit := by
  by_contra hc
  simp [decimalDigit?, hc] at h

lemma Numeral.isDigit {digits : List Char} (h : Numeral digits n) : ∀ d ∈ digits, d.isDigit := by
  cases h with
  | one ha => simpa using isDigit_of_decimalDigit? ha
  | two ha hb => simpa using ⟨isDigit_of_decimalDigit? ha, isDigit_of_decimalDigit? hb⟩

lemma Numeral.ne_nil {digits : List Char} (h : Numeral digits n) : digits ≠ [] := by
  cases h <;> simp

lemma Form.two_le_length (h : Form text p) : 2 ≤ text.length := by
  cases h with
  | escape hc => simp
  | group hmark hdigits => simpa [Nat.one_le_iff_ne_zero] using hdigits.ne_nil
  | braced hdigits => simp

lemma Form.length_ne_zero (h : Form (c :: t) p) : t.length ≠ 0 := by
  have htwo := h.two_le_length
  rw [List.length_cons] at htwo
  omega

/-! ## Pieces -/

/-- What a number is read from. -/
lemma exists_numeral (h : groupNumber? cs = some (n, width)) :
    ∃ digits, Numeral digits n ∧ digits.length = width ∧ digits <+: cs := by
  cases cs with
  | nil => simp [groupNumber?] at h
  | cons a cs =>
      cases ha : decimalDigit? a with
      | none => simp [groupNumber?, ha] at h
      | some m =>
          cases cs with
          | nil =>
              simp [groupNumber?, ha] at h
              obtain ⟨rfl, rfl⟩ := h
              exact ⟨[a], .one ha, rfl, by simp⟩
          | cons b cs =>
              cases hb : decimalDigit? b with
              | none =>
                  simp [groupNumber?, ha, hb] at h
                  obtain ⟨rfl, rfl⟩ := h
                  exact ⟨[a], .one ha, rfl, by simp⟩
              | some k =>
                  simp [groupNumber?, ha, hb] at h
                  obtain ⟨rfl, rfl⟩ := h
                  exact ⟨[a, b], .two ha hb, rfl, by simp⟩

/-- The group that is named behind a dollar sign, and how many characters do so. -/
def dollarNumber? (cs : List Char) : Option (Nat × Nat) :=
  if cs.head? = some '\x7b' then
    (groupNumber? cs.tail).bind fun (n, width) =>
      if (cs.tail.drop width).head? = some '\x7d' then some (n, width + 2) else none
  else groupNumber? cs

/-- A group, or else the mark that names none. -/
def groupOr (c : Char) : Option (Nat × Nat) → Piece × Nat
  | some (n, width) => (.group n, width)
  | none => (.char c, 0)

lemma piece_backslash (cs : List Char) :
    piece '\\' cs = if cs.head? = some '\\' then (.char '\\', 1)
      else if cs.head? = some '$' then (.char '$', 1)
      else groupOr '\\' (groupNumber? cs) := by
  rcases cs with _ | ⟨d, cs⟩
  · rfl
  · by_cases hbackslash : d = '\\'
    · subst hbackslash
      rfl
    · by_cases hdollar : d = '$'
      · subst hdollar
        rfl
      · simp [piece, hbackslash, hdollar]
        rfl

lemma piece_dollar (cs : List Char) : piece '$' cs = groupOr '$' (dollarNumber? cs) := by
  rcases cs with _ | ⟨d, cs⟩
  · rfl
  · by_cases hbrace : d = '\x7b'
    · subst hbrace
      cases h : groupNumber? cs with
      | none => simp [piece, dollarNumber?, h, groupOr]
      | some number =>
          by_cases hclose : cs[number.2]? = some '\x7d' <;>
            simp [piece, dollarNumber?, h, hclose, groupOr]
    · simp [piece, dollarNumber?, hbrace]
      rfl

lemma piece_of_ne (hbackslash : c ≠ '\\') (hdollar : c ≠ '$') (cs : List Char) :
    piece c cs = (.char c, 0) := by
  rw [piece.eq_def, if_neg hbackslash, if_neg hdollar]

lemma form_of_groupNumber? (hc : c = '\\' ∨ c = '$') (h : groupNumber? cs = some (n, width)) :
    ∃ t r, cs = t ++ r ∧ Form (c :: t) (.group n) ∧ t.length = width := by
  obtain ⟨digits, hdigits, rfl, r, rfl⟩ := exists_numeral h
  exact ⟨digits, r, rfl, .group hc hdigits, rfl⟩

lemma form_of_dollarNumber? (h : dollarNumber? cs = some (n, width)) :
    ∃ t r, cs = t ++ r ∧ Form ('$' :: t) (.group n) ∧ t.length = width := by
  rw [dollarNumber?] at h
  split_ifs at h with hbrace
  · obtain ⟨inner, rfl⟩ := List.head?_eq_some_iff.mp hbrace
    obtain ⟨⟨m, k⟩, hm, hclose⟩ := Option.bind_eq_some_iff.mp h
    obtain ⟨digits, hdigits, rfl, r, rfl⟩ := exists_numeral hm
    dsimp only at hclose
    split_ifs at hclose with hhead
    rw [List.tail_cons, List.drop_left] at hhead
    obtain ⟨r, rfl⟩ := List.head?_eq_some_iff.mp hhead
    obtain ⟨rfl, rfl⟩ := Prod.mk.inj (Option.some.inj hclose)
    exact ⟨'\x7b' :: (digits ++ ['\x7d']), r, by simp, .braced hdigits, by simp⟩
  · exact form_of_groupNumber? (.inr rfl) h

lemma width_ne_zero_of_groupNumber? (h : groupNumber? cs = some (n, width)) : width ≠ 0 := by
  obtain ⟨t, r, -, hform, rfl⟩ := form_of_groupNumber? (.inl rfl) h
  exact hform.length_ne_zero

lemma width_ne_zero_of_dollarNumber? (h : dollarNumber? cs = some (n, width)) : width ≠ 0 := by
  obtain ⟨t, r, -, hform, rfl⟩ := form_of_dollarNumber? h
  exact hform.length_ne_zero

/-- A piece is a form that begins here, or else the character. -/
lemma form_or_char (c : Char) (cs : List Char) :
    (∃ t r p, cs = t ++ r ∧ Form (c :: t) p ∧ piece c cs = (p, t.length))
      ∨ piece c cs = (.char c, 0) := by
  have hgroup {number? : Option (Nat × Nat)} (hform : ∀ n width, number? = some (n, width) →
      ∃ t r, cs = t ++ r ∧ Form (c :: t) (.group n) ∧ t.length = width) :
      (∃ t r p, cs = t ++ r ∧ Form (c :: t) p ∧ groupOr c number? = (p, t.length))
        ∨ groupOr c number? = (.char c, 0) := by
    cases number? with
    | none => exact .inr rfl
    | some number =>
        obtain ⟨t, r, hcs, hform, hlength⟩ := hform number.1 number.2 rfl
        exact .inl ⟨t, r, .group number.1, hcs, hform, by rw [groupOr, hlength]⟩
  by_cases hbackslash : c = '\\'
  · subst hbackslash
    rw [piece_backslash]
    split_ifs with hescape hescape'
    · obtain ⟨r, rfl⟩ := List.head?_eq_some_iff.mp hescape
      exact .inl ⟨['\\'], r, _, rfl, .escape (.inl rfl), rfl⟩
    · obtain ⟨r, rfl⟩ := List.head?_eq_some_iff.mp hescape'
      exact .inl ⟨['$'], r, _, rfl, .escape (.inr rfl), rfl⟩
    · exact hgroup fun _ _ => form_of_groupNumber? (.inl rfl)
  · by_cases hdollar : c = '$'
    · subst hdollar
      rw [piece_dollar]
      exact hgroup fun _ _ => form_of_dollarNumber?
    · exact .inr (piece_of_ne hbackslash hdollar cs)

/-- A mark in front of a digit. -/
lemma piece_of_isDigit {a : Char} (hc : c = '\\' ∨ c = '$') (ha : a.isDigit) :
    piece c (a :: cs) = groupOr c (groupNumber? (a :: cs)) := by
  have hbackslash : a ≠ '\\' := by rintro rfl; simp at ha
  have hdollar : a ≠ '$' := by rintro rfl; simp at ha
  have hbrace : a ≠ '\x7b' := by rintro rfl; simp at ha
  rcases hc with rfl | rfl
  · simp [piece_backslash, hbackslash, hdollar]
  · simp [piece_dollar, dollarNumber?, hbrace]

/-- A brace ends the number of a group. -/
lemma piece_braced {digits : List Char} (h : Numeral digits n) (r : List Char) :
    piece '$' ('\x7b' :: (digits ++ ['\x7d']) ++ r)
      = (.group n, ('\x7b' :: (digits ++ ['\x7d'])).length) := by
  have hclose : decimalDigit? '\x7d' = none := by decide
  rw [piece_dollar]
  cases h with
  | one ha => simp [dollarNumber?, groupNumber?, groupOr, ha, hclose]
  | two ha hb => simp [dollarNumber?, groupNumber?, groupOr, ha, hb]

/-- Where a form begins, the piece is this form or a longer one. -/
lemma piece_of_form_append (h : Form (c :: t) p) (r : List Char) :
    piece c (t ++ r) = (p, t.length) ∨ t.length < (piece c (t ++ r)).2 := by
  generalize htext : c :: t = text at h
  cases h with
  | escape hc =>
      obtain ⟨rfl, rfl⟩ := htext
      rcases hc with rfl | rfl <;> exact .inl rfl
  | group hmark hdigits =>
      obtain ⟨rfl, rfl⟩ := htext
      cases hdigits with
      | one ha =>
          rw [List.cons_append, piece_of_isDigit hmark (isDigit_of_decimalDigit? ha)]
          cases hb : r.head?.bind decimalDigit? <;> simp [groupNumber?, groupOr, ha, hb]
      | two ha hb =>
          rw [List.cons_append, piece_of_isDigit hmark (isDigit_of_decimalDigit? ha)]
          simp [groupNumber?, groupOr, ha, hb]
  | braced hdigits =>
      obtain ⟨rfl, rfl⟩ := htext
      exact .inl (piece_braced hdigits r)

/-- No form at a place is longer than the piece there. -/
lemma length_le_of_form (h : Form text p) (hstart : text <+: c :: cs) :
    text.length ≤ (piece c cs).2 + 1 := by
  cases text with
  | nil => simp
  | cons d t =>
      obtain ⟨rfl, r, rfl⟩ := List.cons_prefix_cons.mp hstart
      rcases piece_of_form_append h r with hpiece | hlonger
      · simp [hpiece]
      · simpa using Nat.le_of_lt hlonger

/-- A character that is taken alone begins no form. -/
lemma not_form_of_piece (hpiece : piece c cs = (.char c, 0)) (h : Form text p) :
    ¬ text <+: c :: cs := by
  intro hstart
  have hle := length_le_of_form h hstart
  have htwo := h.two_le_length
  rw [hpiece] at hle
  omega

/-! ## The one reading -/

lemma piecesAfter_eq (skip : Nat) (cs : List Char) :
    piecesAfter skip cs = pieces (cs.drop skip) := by
  induction skip generalizing cs with
  | zero => rfl
  | succ skip ih =>
      cases cs with
      | nil => rfl
      | cons c cs => exact ih cs

lemma pieces_cons (c : Char) (cs : List Char) :
    pieces (c :: cs) = (piece c cs).1 :: pieces (cs.drop (piece c cs).2) := by
  rw [← piecesAfter_eq]
  rfl

lemma reading_pieces : ∀ cs : List Char, Reading cs (pieces cs)
  | [] => .nil
  | c :: cs => by
      rw [pieces_cons]
      rcases form_or_char c cs with ⟨t, r, p, rfl, hform, hpiece⟩ | hpiece
      · rw [hpiece, List.drop_left]
        have hlongest : ∀ longer q, Form longer q → longer <+: c :: t ++ r →
            longer.length ≤ (c :: t).length := by
          intro longer q hlonger hstart
          simpa [hpiece] using length_le_of_form hlonger hstart
        exact .form hform hlongest (reading_pieces r)
      · rw [hpiece, List.drop_zero]
        exact .char (fun _ _ => not_form_of_piece hpiece) (reading_pieces cs)
  termination_by cs => cs.length

lemma Reading.eq_pieces {ps : List Piece} (h : Reading cs ps) : ps = pieces cs := by
  induction h with
  | nil => rfl
  | @form text rest p ps hform hlongest hrest ih =>
      cases text with
      | nil => simpa using hform.two_le_length
      | cons c t =>
          rw [List.cons_append, pieces_cons, ih]
          rcases form_or_char c (t ++ rest) with ⟨t', r, q, hsplit, hform', hpiece⟩ | hpiece
          · -- the piece is a form here too, so it cannot be longer than the longest one
            have hle : t'.length ≤ t.length := by
              simpa using hlongest _ q hform' ⟨r, by rw [List.cons_append, List.cons_append, hsplit]⟩
            rcases piece_of_form_append hform rest with hp | hlonger
            · rw [hp, List.drop_left]
            · rw [hpiece] at hlonger
              omega
          · exact absurd (List.prefix_append (c :: t) rest) (not_form_of_piece hpiece hform)
  | @char c rest ps hnone hrest ih =>
      rw [pieces_cons, ih]
      rcases form_or_char c rest with ⟨t, r, p, rfl, hform, -⟩ | hpiece
      · exact absurd (List.prefix_append (c :: t) r) (hnone _ p hform)
      · rw [hpiece, List.drop_zero]

/-- **The pieces of a template are its one and only reading.** -/
theorem reading_iff {ps : List Piece} : Reading cs ps ↔ ps = pieces cs :=
  ⟨Reading.eq_pieces, fun h => h ▸ reading_pieces cs⟩

end Placeholders.Template
