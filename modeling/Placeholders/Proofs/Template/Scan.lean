import Mathlib.Data.List.Basic
import Placeholders.Proofs.Template.Reading
import Placeholders.Template.Scan

/-!
# The scan of a template

The scan goes over bytes, and the grammar is about characters.  They agree since no byte of a
character outside of ASCII is one that means something in a template: the scan passes such a
character byte by byte, and only between characters does it ever cut.

* `special?_bytesOf` — the scan finds a special place just where a piece is a form.
* `splitBytes?_append`, `cut?_append` — between characters, everything can be cut.
* `run_char`, `run_form` — one character is gone past, and one form is written.
* `run_bytesOf` — the whole scan, from any place between characters; `write?_eq`, `fill_eq`.
* **`write?_reading`** — the scan writes what the grammar says, for every template.
-/

namespace Placeholders.Template

variable {c d : Char} {cs t text : List Char} {p : Piece} {b : UInt8} {n width : Nat}

/-! ## Bytes -/

@[simp] lemma bytesOf_nil : bytesOf [] = [] := rfl

@[simp] lemma bytesOf_cons (c : Char) (cs : List Char) :
    bytesOf (c :: cs) = String.utf8EncodeChar c ++ bytesOf cs := rfl

@[simp] lemma bytesOf_append (cs ds : List Char) :
    bytesOf (cs ++ ds) = bytesOf cs ++ bytesOf ds := List.flatMap_append

lemma encode_of_ascii (h : c.toNat < 128) : String.utf8EncodeChar c = [c.toUInt8] := by
  have hsize : c.utf8Size = 1 := by
    rw [Char.utf8Size_eq_one_iff, UInt32.le_iff_toNat_le]
    exact Nat.lt_succ_iff.mp h
  rw [String.utf8EncodeChar_eq_singleton hsize, Char.toUInt8_val]

lemma length_bytesOf (h : ∀ c ∈ cs, c.toNat < 128) : (bytesOf cs).length = cs.length := by
  induction cs with
  | nil => rfl
  | cons c cs ih =>
      obtain ⟨hc, hcs⟩ := List.forall_mem_cons.mp h
      simp [encode_of_ascii hc, ih hcs]

/-- All bytes of a character outside of ASCII are outside of ASCII. -/
lemma le_of_mem_encode (h : 128 ≤ c.toNat) (hb : b ∈ String.utf8EncodeChar c) :
    128 ≤ b.toNat := by
  have hc : 128 ≤ c.val.toNat := h
  have hmax : c.val.toNat < 1114112 := c.valid.elim (fun h => by omega) (fun h => h.2)
  revert hb
  fun_cases String.utf8EncodeChar c <;> intro hb <;>
    simp only [List.mem_cons, List.not_mem_nil, or_false] at hb
  · omega
  · rcases hb with rfl | rfl <;> rw [UInt8.toNat_ofNat'] <;> omega
  · rcases hb with rfl | rfl | rfl <;> rw [UInt8.toNat_ofNat'] <;> omega
  · rcases hb with rfl | rfl | rfl | rfl <;> rw [UInt8.toNat_ofNat'] <;> omega

/-- A fact about all ASCII characters can be looked up. -/
lemma forall_ascii {P : Char → Prop} (h : ∀ n : Fin 128, P (Char.ofNat n)) (hc : c.toNat < 128) :
    P c := by
  have hP := h ⟨c.toNat, hc⟩
  rwa [Char.ofNat_toNat] at hP

lemma toUInt8_inj_of_ascii (hc : c.toNat < 128) (hd : d.toNat < 128) :
    c.toUInt8 = d.toUInt8 ↔ c = d := by
  have hcode {c : Char} (hc : c.toNat < 128) : c.toUInt8.toNat = c.toNat :=
    forall_ascii (P := fun c => c.toUInt8.toNat = c.toNat) (by decide) hc
  refine ⟨fun h => ?_, congrArg Char.toUInt8⟩
  rw [← Char.ofNat_toNat c, ← Char.ofNat_toNat d, ← hcode hc, ← hcode hd, h]

lemma isDigitByte_of_ascii (hc : c.toNat < 128) : isDigitByte c.toUInt8 = c.isDigit :=
  forall_ascii (P := fun c => isDigitByte c.toUInt8 = c.isDigit) (by decide) hc

lemma ascii_of_isDigit (h : c.isDigit) : c.toNat < 128 := by
  simp only [Char.isDigit, Bool.and_eq_true, decide_eq_true_eq, UInt32.le_iff_toNat_le] at h
  exact Nat.lt_of_le_of_lt h.2 (by decide)

lemma decimalDigit?_of_isDigit (h : c.isDigit) :
    decimalDigit? c = some (c.toUInt8 - '0'.toUInt8).toNat :=
  forall_ascii (P := fun c => c.isDigit → decimalDigit? c = some (c.toUInt8 - '0'.toUInt8).toNat)
    (by decide) (ascii_of_isDigit h) h

lemma isDigitByte_of_le (h : 128 ≤ b.toNat) : isDigitByte b = false := by
  have hb : ¬ b ≤ '9'.toUInt8 := by
    rw [UInt8.le_iff_toNat_le]
    exact Nat.not_le.mpr (Nat.lt_of_lt_of_le (by decide) h)
  simp [isDigitByte, hb]

lemma Form.ascii (h : Form text p) : ∀ c ∈ text, c.toNat < 128 := by
  have hnumeral {digits : List Char} {n : Nat} (hdigits : Numeral digits n) :
      ∀ d ∈ digits, d.toNat < 128 := fun d hd => ascii_of_isDigit (hdigits.isDigit d hd)
  cases h with
  | escape hc => rcases hc with rfl | rfl <;> simp
  | group hmark hdigits =>
      refine List.forall_mem_cons.mpr ⟨?_, hnumeral hdigits⟩
      rcases hmark with rfl | rfl <;> decide
  | braced hdigits =>
      intro c hc
      simp only [List.mem_cons, List.mem_append, List.not_mem_nil, or_false] at hc
      rcases hc with rfl | rfl | hc | rfl
      · decide
      · decide
      · exact hnumeral hdigits c hc
      · decide

/-- The first byte of a character outside of ASCII. -/
lemma exists_encode_eq_cons (h : 128 ≤ c.toNat) :
    ∃ b bs, String.utf8EncodeChar c = b :: bs ∧ 128 ≤ b.toNat := by
  obtain ⟨b, bs, hbytes⟩ := List.exists_cons_of_ne_nil (String.utf8EncodeChar_ne_nil (c := c))
  exact ⟨b, bs, hbytes, le_of_mem_encode h (hbytes ▸ List.mem_cons_self ..)⟩

lemma head?_bytesOf_eq_iff (hd : d.toNat < 128) :
    (bytesOf cs).head? = some d.toUInt8 ↔ cs.head? = some d := by
  cases cs with
  | nil => simp
  | cons c cs =>
      by_cases hc : c.toNat < 128
      · simp [encode_of_ascii hc, toUInt8_inj_of_ascii hc hd]
      · obtain ⟨b, bs, hbytes, hb⟩ := exists_encode_eq_cons (Nat.not_lt.mp hc)
        have hcode : d.toUInt8.toNat = d.toNat :=
          forall_ascii (P := fun c => c.toUInt8.toNat = c.toNat) (by decide) hd
        have hbyte : b ≠ d.toUInt8 := by
          rintro rfl
          omega
        have hchar : c ≠ d := by
          rintro rfl
          exact hc hd
        simp [hbytes, hbyte, hchar]

/-- The digits that a text begins with are found among its bytes. -/
lemma takeWhile_bytesOf (k : Nat) (cs : List Char) :
    ((bytesOf cs).take k).takeWhile isDigitByte
      = ((cs.take k).takeWhile Char.isDigit).map Char.toUInt8 := by
  induction k generalizing cs with
  | zero => simp
  | succ k ih =>
      cases cs with
      | nil => simp
      | cons c cs =>
          by_cases hc : c.toNat < 128
          · simp only [bytesOf_cons, encode_of_ascii hc, List.singleton_append, List.take_succ_cons,
              List.takeWhile_cons, isDigitByte_of_ascii hc, ih]
            split <;> simp
          · obtain ⟨b, bs, hbytes, hb⟩ := exists_encode_eq_cons (Nat.not_lt.mp hc)
            have hdigit : ¬ c.isDigit := fun h => hc (ascii_of_isDigit h)
            simp [hbytes, isDigitByte_of_le hb, hdigit]

lemma numberOfBytes?_bytesOf (cs : List Char) : numberOfBytes? (bytesOf cs) = groupNumber? cs := by
  have hnone {c : Char} (h : ¬ c.isDigit) : decimalDigit? c = none := by simp [decimalDigit?, h]
  rw [numberOfBytes?, takeWhile_bytesOf]
  rcases cs with _ | ⟨a, _ | ⟨b, cs⟩⟩
  · rfl
  · by_cases ha : a.isDigit
    · simp [groupNumber?, ha, decimalDigit?_of_isDigit ha]
    · simp [groupNumber?, ha, hnone ha]
  · by_cases ha : a.isDigit
    · by_cases hb : b.isDigit
      · simp [groupNumber?, ha, hb, decimalDigit?_of_isDigit ha, decimalDigit?_of_isDigit hb,
          Nat.mul_comm]
      · simp [groupNumber?, ha, hb, decimalDigit?_of_isDigit ha, hnone hb]
    · simp [groupNumber?, ha, hnone ha]

/-! ## Special places -/

lemma special?_backslash (cs : List Char) :
    special? (bytesOf ('\\' :: cs)) = if cs.head? = some '\\' then some (.char '\\', 2)
      else if cs.head? = some '$' then some (.char '$', 2)
      else (groupNumber? cs).map fun (n, width) => (.group n, width + 1) := by
  rw [bytesOf_cons, encode_of_ascii (by decide), List.singleton_append, special?, if_pos rfl]
  simp only [head?_bytesOf_eq_iff (d := '\\') (by decide),
    head?_bytesOf_eq_iff (d := '$') (by decide), numberOfBytes?_bytesOf]

/-- What comes right after a number. -/
lemma getElem?_bytesOf (h : groupNumber? cs = some (n, width)) :
    (bytesOf cs)[width]? = (bytesOf (cs.drop width)).head? := by
  obtain ⟨digits, hdigits, rfl, r, rfl⟩ := exists_numeral h
  have hlength := length_bytesOf fun d hd => ascii_of_isDigit (hdigits.isDigit d hd)
  rw [List.drop_left, bytesOf_append, List.getElem?_append_right (by omega), hlength,
    Nat.sub_self, List.head?_eq_getElem?]

lemma dollarGroup?_bytesOf (cs : List Char) : dollarGroup? (bytesOf cs) = dollarNumber? cs := by
  by_cases hbrace : cs.head? = some '\x7b'
  · obtain ⟨inner, rfl⟩ := List.head?_eq_some_iff.mp hbrace
    rw [bytesOf_cons, encode_of_ascii (by decide), List.singleton_append, dollarGroup?,
      List.head?_cons, if_pos rfl, List.tail_cons, numberOfBytes?_bytesOf, dollarNumber?,
      if_pos hbrace, List.tail_cons]
    cases h : groupNumber? inner with
    | none => rfl
    | some number => simp [getElem?_bytesOf h, head?_bytesOf_eq_iff (d := '\x7d') (by decide)]
  · rw [dollarGroup?, if_neg (by rwa [head?_bytesOf_eq_iff (by decide)]), numberOfBytes?_bytesOf,
      dollarNumber?, if_neg hbrace]

lemma special?_dollar (cs : List Char) :
    special? (bytesOf ('$' :: cs))
      = (dollarNumber? cs).map fun (n, width) => (.group n, width + 1) := by
  rw [bytesOf_cons, encode_of_ascii (by decide), List.singleton_append, special?,
    if_neg (by decide), if_pos rfl, dollarGroup?_bytesOf]

lemma special?_of_le (h : 128 ≤ b.toNat) (bs : List UInt8) : special? (b :: bs) = none := by
  have h1 : b ≠ '\\'.toUInt8 := by rintro rfl; exact absurd h (by decide)
  have h2 : b ≠ '$'.toUInt8 := by rintro rfl; exact absurd h (by decide)
  rw [special?, if_neg h1, if_neg h2]

lemma special?_of_ne (hbackslash : c ≠ '\\') (hdollar : c ≠ '$') (cs : List Char) :
    special? (bytesOf (c :: cs)) = none := by
  by_cases hc : c.toNat < 128
  · have h1 : c.toUInt8 ≠ '\\'.toUInt8 := mt (toUInt8_inj_of_ascii hc (by decide)).mp hbackslash
    have h2 : c.toUInt8 ≠ '$'.toUInt8 := mt (toUInt8_inj_of_ascii hc (by decide)).mp hdollar
    rw [bytesOf_cons, encode_of_ascii hc, List.singleton_append, special?, if_neg h1, if_neg h2]
  · obtain ⟨b, bs, hbytes, hb⟩ := exists_encode_eq_cons (Nat.not_lt.mp hc)
    rw [bytesOf_cons, hbytes, List.cons_append, special?_of_le hb]

/-- The scan finds a special place just where a piece takes more than its first character. -/
lemma special?_bytesOf (c : Char) (cs : List Char) :
    special? (bytesOf (c :: cs))
      = if (piece c cs).2 = 0 then none else some ((piece c cs).1, (piece c cs).2 + 1) := by
  have hgroup {number? : Option (Nat × Nat)}
      (hwidth : ∀ n width, number? = some (n, width) → width ≠ 0) :
      (number?.map fun (n, width) => (Piece.group n, width + 1))
        = if (groupOr c number?).2 = 0 then none
          else some ((groupOr c number?).1, (groupOr c number?).2 + 1) := by
    cases number? with
    | none => rfl
    | some number => rw [groupOr, if_neg (hwidth number.1 number.2 rfl), Option.map_some]
  by_cases hbackslash : c = '\\'
  · subst hbackslash
    rw [special?_backslash, piece_backslash]
    by_cases hescape : cs.head? = some '\\'
    · rw [if_pos hescape, if_pos hescape]
      rfl
    · by_cases hescape' : cs.head? = some '$'
      · rw [if_neg hescape, if_pos hescape', if_neg hescape, if_pos hescape']
        rfl
      · rw [if_neg hescape, if_neg hescape', if_neg hescape, if_neg hescape']
        exact hgroup fun _ _ => width_ne_zero_of_groupNumber?
  · by_cases hdollar : c = '$'
    · subst hdollar
      rw [special?_dollar, piece_dollar]
      exact hgroup fun _ _ => width_ne_zero_of_dollarNumber?
    · rw [special?_of_ne hbackslash hdollar, piece_of_ne hbackslash hdollar, if_pos rfl]

/-! ## Cuts -/

/-- Between characters a text can be divided. -/
lemma splitBytes?_append (cs ds : List Char) :
    splitBytes? (cs ++ ds) (bytesOf cs).length = some (cs, ds) := by
  induction cs with
  | nil => cases ds <;> rfl
  | cons c cs ih =>
      have hsize := c.utf8Size_pos
      obtain ⟨n, hn⟩ : ∃ n, (bytesOf (c :: cs)).length = n + 1 :=
        ⟨_, (Nat.succ_pred_eq_of_pos (by simp; omega)).symm⟩
      have hrest : n + 1 - c.utf8Size = (bytesOf cs).length := by
        rw [← hn, bytesOf_cons, List.length_append, String.length_utf8EncodeChar]
        omega
      have hle : c.utf8Size ≤ n + 1 := by
        rw [← hn, bytesOf_cons, List.length_append, String.length_utf8EncodeChar]
        omega
      rw [hn, List.cons_append, splitBytes?, if_pos hle, hrest, ih]
      rfl

lemma cut?_append (cs ds es : List Char) :
    cut? (cs ++ ds ++ es) (bytesOf cs).length (bytesOf (cs ++ ds)).length = some ds := by
  have hlength : (bytesOf (cs ++ ds)).length - (bytesOf cs).length = (bytesOf ds).length := by simp
  rw [cut?, if_pos (by simp), hlength, List.append_assoc, splitBytes?_append]
  simp [splitBytes?_append]

/-! ## Turns -/

section

variable {groups : Groups} {template written : List Char} {turns start offset : Nat}

lemma run_nil : Scan.run groups template turns ⟨start, offset, [], written⟩
    = (splitBytes? template start).map fun (_, text) => written ++ text := by
  cases turns <;> rfl

/-- A byte that stands for itself is gone past. -/
lemma run_of_none {rest : List UInt8} (h : special? (b :: rest) = none) :
    Scan.run groups template (turns + 1) ⟨start, offset, b :: rest, written⟩
      = Scan.run groups template turns ⟨start, offset + 1, rest, written⟩ := by
  have hstep : Scan.step groups template ⟨start, offset, b :: rest, written⟩
      = some ⟨start, offset + 1, rest, written⟩ := by
    rw [Scan.step, h]
    rfl
  exact congrArg (Option.bind · _) hstep

/-- At a special place the text that is still to be written is cut out. -/
lemma run_of_special {bytes : List UInt8} (h : special? bytes = some (p, width))
    {pending : List Char} (hcut : cut? template start offset = some pending) :
    Scan.run groups template (turns + 1) ⟨start, offset, bytes, written⟩
      = Scan.run groups template turns ⟨offset + width, offset + width, bytes.drop width,
          written ++ pending ++ p.expand groups⟩ := by
  have hstep : Scan.step groups template ⟨start, offset, bytes, written⟩
      = some ⟨offset + width, offset + width, bytes.drop width,
          written ++ pending ++ p.expand groups⟩ := by
    rw [Scan.step, h, hcut]
    rfl
  cases bytes with
  | nil => simp [special?] at h
  | cons b rest => exact congrArg (Option.bind · _) hstep

lemma run_append_of_le (passed rest : List UInt8) (h : ∀ b ∈ passed, 128 ≤ b.toNat) :
    Scan.run groups template (turns + passed.length) ⟨start, offset, passed ++ rest, written⟩
      = Scan.run groups template turns ⟨start, offset + passed.length, rest, written⟩ := by
  induction passed generalizing offset with
  | nil => rfl
  | cons b passed ih =>
      obtain ⟨hb, hpassed⟩ := List.forall_mem_cons.mp h
      rw [List.length_cons, ← Nat.add_assoc, List.cons_append,
        run_of_none (special?_of_le hb _), ih hpassed, Nat.add_right_comm, Nat.add_assoc]

/-- So is a character that stands for itself, in as many turns as it has bytes. -/
lemma run_char (hpiece : piece c cs = (.char c, 0)) :
    Scan.run groups template (turns + (String.utf8EncodeChar c).length)
        ⟨start, offset, bytesOf (c :: cs), written⟩
      = Scan.run groups template turns
        ⟨start, offset + (String.utf8EncodeChar c).length, bytesOf cs, written⟩ := by
  by_cases hc : c.toNat < 128
  · have hnone : special? (bytesOf (c :: cs)) = none := by
      rw [special?_bytesOf, hpiece, if_pos rfl]
    rw [bytesOf_cons, encode_of_ascii hc] at hnone ⊢
    exact run_of_none hnone
  · exact run_append_of_le _ _ fun b => le_of_mem_encode (Nat.not_lt.mp hc)

/-- A form ends the text that is still to be written. -/
lemma run_form {done pending r : List Char} (hform : Form (c :: t) p)
    (hpiece : piece c (t ++ r) = (p, t.length)) :
    Scan.run groups (done ++ pending ++ (c :: t ++ r)) (turns + 1)
        ⟨(bytesOf done).length, (bytesOf (done ++ pending)).length, bytesOf (c :: t ++ r), written⟩
      = Scan.run groups (done ++ pending ++ (c :: t ++ r)) turns
        ⟨(bytesOf (done ++ pending ++ c :: t)).length,
          (bytesOf (done ++ pending ++ c :: t)).length, bytesOf r,
          written ++ pending ++ p.expand groups⟩ := by
  have hlength : (bytesOf (c :: t)).length = t.length + 1 := length_bytesOf hform.ascii
  have hspecial : special? (bytesOf (c :: t ++ r)) = some (p, t.length + 1) := by
    rw [List.cons_append, special?_bytesOf, hpiece, if_neg hform.length_ne_zero]
  have hend : (bytesOf (done ++ pending)).length + (t.length + 1)
      = (bytesOf (done ++ pending ++ c :: t)).length := by
    rw [bytesOf_append (done ++ pending), List.length_append, hlength]
  have hrest : (bytesOf (c :: t ++ r)).drop (t.length + 1) = bytesOf r := by
    rw [bytesOf_append, ← hlength, List.drop_left]
  rw [run_of_special hspecial (cut?_append done pending (c :: t ++ r)), hend, hrest]

lemma expand_cons (groups : Groups) (c : Char) (cs : List Char) :
    expand groups (c :: cs)
      = (piece c cs).1.expand groups ++ expand groups (cs.drop (piece c cs).2) := by
  rw [expand, pieces_cons, List.flatMap_cons]
  rfl

/-- **The scan from any place between characters.**  What is `done` is written, what is `pending`
was gone past since, and the rest is to come. -/
lemma run_bytesOf (groups : Groups) : ∀ (rest done pending written : List Char) (turns : Nat),
    (bytesOf rest).length ≤ turns →
    Scan.run groups (done ++ pending ++ rest) turns
        ⟨(bytesOf done).length, (bytesOf (done ++ pending)).length, bytesOf rest, written⟩
      = some (written ++ pending ++ expand groups rest)
  | [], done, pending, written, turns, _ => by
      rw [List.append_nil, bytesOf_nil, run_nil, splitBytes?_append]
      simp [expand, pieces, piecesAfter]
  | c :: cs, done, pending, written, turns, hturns => by
      rcases form_or_char c cs with ⟨t, r, p, rfl, hform, hpiece⟩ | hpiece
      · have hpos : 0 < (bytesOf (c :: (t ++ r))).length := by
          have hsize := c.utf8Size_pos
          simp
          omega
        obtain ⟨turns, rfl⟩ : ∃ n, turns = n + 1 := ⟨turns - 1, by omega⟩
        have hlength : (bytesOf r).length ≤ turns := by
          have := length_bytesOf hform.ascii
          rw [← List.cons_append, bytesOf_append, List.length_append, this] at hturns
          rw [List.length_cons] at hturns
          omega
        have ih := run_bytesOf groups r (done ++ pending ++ c :: t) []
          (written ++ pending ++ p.expand groups) turns hlength
        rw [← List.cons_append, run_form hform hpiece, List.cons_append, expand_cons, hpiece,
          List.drop_left]
        simpa using ih
      · rw [bytesOf_cons, List.length_append] at hturns
        obtain ⟨k, rfl⟩ : ∃ k, turns = k + (String.utf8EncodeChar c).length :=
          ⟨turns - (String.utf8EncodeChar c).length, by omega⟩
        have ih := run_bytesOf groups cs done (pending ++ [c]) written k (by omega)
        rw [run_char hpiece, expand_cons, hpiece, List.drop_zero]
        simpa [Piece.expand, Nat.add_assoc] using ih
  termination_by rest => rest.length

end

/-! ## The whole scan -/

lemma write?_eq (groups : Groups) (template written : List Char) :
    write? groups template written = some (written ++ expand groups template) := by
  simpa [write?] using run_bytesOf groups template [] [] written _ (Nat.le_refl _)

lemma fill_eq (template : List Char) (groups : Groups) :
    fill template groups = expand groups template := by
  rw [fill, write?_eq, Option.getD_some, List.nil_append]

/-- **The scan writes what the grammar says.**  Every template has exactly one reading.  The scan
gets to its end, with all cuts between characters and inside of the template, and has then written
the pieces of the reading behind what was there. -/
theorem write?_reading (groups : Groups) (template written : List Char) :
    ∃ ps, (∀ qs, Reading template qs ↔ qs = ps)
      ∧ write? groups template written = some (written ++ ps.flatMap (Piece.expand groups)) :=
  ⟨pieces template, fun _ => reading_iff, write?_eq groups template written⟩

/-- Here the first dollar sign, the last group and the last backslash are not complete. -/
example : write? (fun n => if n = 1 then some ['x'] else none) "é$$1$\x7b1\\".toList ['>']
    = some ">é$x$\x7b1\\".toList := by decide +kernel

end Placeholders.Template
