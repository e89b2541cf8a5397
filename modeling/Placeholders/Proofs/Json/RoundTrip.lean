import Placeholders.Json.Reader
import Placeholders.Json.Writer
import Placeholders.Proofs.Source

/-!
# JSON as text and back

What is written of a value is read back.  Numbers are left out: how doubles are written and read is a
matter of its own.

* `readString_escapeChar` — a character of a string is read as it is written, also where the writer
  escapes it.
* `ReadAs` — a reader gets a value from a text and leaves what comes behind it.
* `readContainer_intercalate` — a container is read with its items, if the items are.
* `Plain` — the values that this is about.
* **`readAs_write`**, **`read?_write`** — a plain value is read from its text.
-/

namespace Placeholders.Json

/-! ## Strings -/

lemma hex4?_hexDigit : ∀ n < 0x20,
    hex4? '0' '0' (hexDigit (n / 16)) (hexDigit (n % 16)) = some n := by decide

/-- A unit has to have four hexadecimal digits. -/
lemma readString_of_hex4?_eq_none {a b c d : Char} (h : hex4? a b c d = none)
    (read rest : List Char) : readString read ('\\' :: 'u' :: a :: b :: c :: d :: rest) = none := by
  by_cases hunit : ∃ e f g h rest', rest = '\\' :: 'u' :: e :: f :: g :: h :: rest'
  · obtain ⟨e, f, g, h', rest, rfl⟩ := hunit
    rw [readString, h]
  · rw [readString, h]
    · rfl
    · rintro e f g h rest' rfl
      exact hunit ⟨e, f, g, h, rest', rfl⟩

/-- A unit that stands for a character is read, whatever comes behind it.  If there is another unit
behind it, the reader looks at that already here, and stops early if it has no value. -/
lemma readString_unit {a b c d x : Char} {n : Nat} (hhex : hex4? a b c d = some n)
    (hunit : plainUnit? n = some x) (read rest : List Char) :
    readString read ('\\' :: 'u' :: a :: b :: c :: d :: rest) = readString (x :: read) rest := by
  by_cases hnext : ∃ e f g h rest', rest = '\\' :: 'u' :: e :: f :: g :: h :: rest'
  · obtain ⟨e, f, g, h, rest, rfl⟩ := hnext
    cases hhex' : hex4? e f g h with
    | none => rw [readString_of_hex4?_eq_none hhex', readString, hhex, hhex']
    | some m => simp only [readString, hhex, hhex', hunit]
  · rw [readString, hhex, Option.bind_some, hunit]
    rintro e f g h rest' rfl
    exact hnext ⟨e, f, g, h, rest', rfl⟩

lemma plainUnit?_toNat {c : Char} (h : c.toNat < 0x20) : plainUnit? c.toNat = some c := by
  rw [plainUnit?, if_neg (by omega), Char.ofNat_toNat]

/-- A short escape is read. -/
lemma readString_short {c x : Char} (h : shortEscape? c = some x) (read rest : List Char) :
    readString read ('\\' :: c :: rest) = readString (x :: read) rest := by
  have hc : c ≠ 'u' := by
    rintro rfl
    cases h
  rw [readString, h]
  · rintro a b c d e f g h rest heq
    exact absurd heq hc
  · rintro a b c d rest heq
    exact absurd heq hc

/-- **A character is read as it is written.** -/
lemma readString_escapeChar (read : List Char) (c : Char) (rest : List Char) :
    readString read (escapeChar c ++ rest) = readString (c :: read) rest := by
  unfold escapeChar
  split
  case h_8 hquote hbackslash _ _ _ _ _ =>
    split
    · next hcontrol =>
      exact readString_unit (hex4?_hexDigit _ hcontrol) (plainUnit?_toNat hcontrol) _ _
    · next hcontrol =>
      rw [List.singleton_append, readString, if_neg (not_or.mpr ⟨hcontrol, hbackslash⟩)]
      · exact hquote
      all_goals intros; contradiction
  all_goals exact readString_short rfl _ _

lemma readString_flatMap : ∀ (cs read rest : List Char),
    readString read (cs.flatMap escapeChar ++ '"' :: rest)
      = some (String.ofList (read.reverse ++ cs), rest)
  | [], read, rest => by rw [List.flatMap_nil, List.nil_append, readString, List.append_nil]
  | c :: cs, read, rest => by
      rw [List.flatMap_cons, List.append_assoc, readString_escapeChar, readString_flatMap cs,
        List.reverse_cons, List.append_assoc, List.singleton_append]

/-- **A string is read as it is written, and what comes behind it is left.** -/
lemma exists_toList_quote (s : String) : ∃ body, (quote s).toList = '"' :: body
    ∧ ∀ rest, readString [] (body ++ rest) = some (s, rest) := by
  refine ⟨s.toList.flatMap escapeChar ++ ['"'], String.toList_ofList .., fun rest => ?_⟩
  rw [List.append_assoc, List.singleton_append, readString_flatMap, List.reverse_nil,
    List.nil_append, String.ofList_toList]

/-! ## Containers -/

/-- A text gives a value to a reader, whatever comes behind it.  It begins with no blank and with
none of the marks that end a container. -/
def ReadAs {α : Type} (read : List Char → Option (α × List Char)) (text : String) (value : α) :
    Prop :=
  (∃ c cs, text.toList = c :: cs ∧ c ∉ [' ', '\n', '\t', '\r', ']', '\x7d'])
    ∧ ∀ rest, read (text.toList ++ rest) = some (value, rest)

section Container

variable {α : Type} {item : List Char → Option (α × List Char)} {text : α → String} {close : Char}

lemma skipBlank_cons {c : Char} (h : c ∉ [' ', '\n', '\t', '\r']) (cs : List Char) :
    skipBlank (c :: cs) = c :: cs := by
  rw [skipBlank, List.dropWhile_cons_of_neg]
  simpa [and_assoc] using h

/-- An item is read, and then what the sign behind it asks for. -/
lemma readItems_append {x : α} (h : ReadAs item (text x) x) (fuel : Nat) {sign : Char}
    (hsign : sign ∉ [' ', '\n', '\t', '\r']) (rest : List Char) :
    readItems item close (fuel + 1) ((text x).toList ++ sign :: rest)
      = if sign = ',' then (readItems item close fuel rest).map fun (xs, rest) => (x :: xs, rest)
        else if sign = close then some ([x], rest) else none := by
  rw [readItems, h.2]
  simp only [Option.bind_eq_bind, Option.bind_some, skipBlank_cons hsign]
  split_ifs
  · cases readItems item close fuel rest <;> rfl
  · rfl
  · rfl

lemma not_mem_of_close :
    ∀ close ∈ [']', '\x7d'], close ∉ [' ', '\n', '\t', '\r'] ∧ close ≠ ',' := by
  intro close hclose
  rcases List.mem_pair.mp hclose with rfl | rfl <;> decide

/-- **Items with commas between them are read one after the other.** -/
lemma readItems_intercalate (hclose : close ∈ [']', '\x7d']) (rest : List Char) :
    ∀ {xs : List α} {fuel : Nat}, xs ≠ [] → xs.length ≤ fuel →
      (∀ x ∈ xs, ReadAs item (text x) x) →
        readItems item close fuel ((String.intercalate "," (xs.map text)).toList ++ close :: rest)
          = some (xs, rest)
  | [], _, hne, _, _ => absurd rfl hne
  | x :: xs, fuel + 1, _, hfuel, h => by
      obtain ⟨hx, hxs⟩ := List.forall_mem_cons.mp h
      cases xs with
      | nil =>
          obtain ⟨hblank, hcomma⟩ := not_mem_of_close close hclose
          rw [List.map_singleton, String.intercalate_singleton, readItems_append hx fuel hblank,
            if_neg hcomma, if_pos rfl]
      | cons next xs =>
          have ih := readItems_intercalate hclose rest (List.cons_ne_nil next xs)
            (Nat.le_of_succ_le_succ hfuel) hxs
          have hcomma : ",".toList = [','] := by decide
          rw [List.map_cons, List.map_cons, String.intercalate_cons_cons, String.toList_append,
            String.toList_append, hcomma, List.append_assoc, List.append_assoc,
            List.singleton_append, readItems_append hx fuel (by decide), if_pos rfl,
            ← List.map_cons, ih, Option.map_some]

lemma length_le_length_intercalate : ∀ {xs : List α}, (∀ x ∈ xs, ReadAs item (text x) x) →
    xs.length ≤ (String.intercalate "," (xs.map text)).length
  | [], _ => Nat.zero_le _
  | x :: xs, h => by
      obtain ⟨⟨⟨c, cs, hc, -⟩, -⟩, hxs⟩ := List.forall_mem_cons.mp h
      have hlength : 0 < (text x).length := by
        rw [← String.length_toList, hc]
        exact Nat.succ_pos _
      cases xs with
      | nil => exact hlength
      | cons next xs =>
          have ih := length_le_length_intercalate hxs
          rw [List.map_cons, List.map_cons, String.intercalate_cons_cons, String.length_append,
            String.length_append, ← List.map_cons, List.length_cons]
          omega

lemma exists_toList_intercalate_cons (first : String) (others : List String) :
    ∃ more, (String.intercalate "," (first :: others)).toList = first.toList ++ more := by
  cases others with
  | nil => exact ⟨[], by rw [String.intercalate_singleton, List.append_nil]⟩
  | cons next others =>
      refine ⟨",".toList ++ (String.intercalate "," (next :: others)).toList, ?_⟩
      rw [String.intercalate_cons_cons, String.toList_append, String.toList_append,
        List.append_assoc]

/-- **A container is read with its items.** -/
lemma readContainer_intercalate (hclose : close ∈ [']', '\x7d']) {xs : List α}
    (h : ∀ x ∈ xs, ReadAs item (text x) x) (rest : List Char) :
    readContainer item close ((String.intercalate "," (xs.map text)).toList ++ close :: rest)
      = some (xs, rest) := by
  cases xs with
  | nil =>
      have hskip := skipBlank_cons (not_mem_of_close close hclose).1 rest
      rw [List.map_nil, String.intercalate_nil, String.toList_empty, List.nil_append,
        readContainer, hskip]
      exact if_pos rfl
  | cons x xs =>
      have hitems (fuel : Nat) (hfuel : (x :: xs).length ≤ fuel) :=
        readItems_intercalate hclose rest (List.cons_ne_nil x xs) hfuel h
      have hlength := length_le_length_intercalate h
      obtain ⟨⟨⟨c, cs, hc, hsign⟩, -⟩, -⟩ := List.forall_mem_cons.mp h
      obtain ⟨more, hmore⟩ := exists_toList_intercalate_cons (text x) (xs.map text)
      rw [← String.length_toList] at hlength
      rw [List.map_cons, hmore, hc] at hitems hlength ⊢
      have hskip : skipBlank (c :: cs ++ more ++ close :: rest)
          = c :: cs ++ more ++ close :: rest :=
        skipBlank_cons (fun hmem => hsign (List.mem_append_left [']', '\x7d'] hmem)) _
      have hopen : c ≠ close := fun heq =>
        hsign (heq ▸ List.mem_append_right [' ', '\n', '\t', '\r'] hclose)
      have hfuel : (x :: xs).length ≤ (c :: cs ++ more ++ close :: rest).length + 1 := by
        rw [List.length_append]
        omega
      rw [readContainer, hskip]
      exact (if_neg hopen).trans (hitems _ hfuel)

end Container

/-! ## Values -/

/-- There are no numbers in a value and no more containers inside each other than there may be, and
the fields of its objects ascend. -/
inductive Plain : Nat → Json → Prop
  | null (depth : Nat) : Plain depth .null
  | bool (depth : Nat) (value : Bool) : Plain depth (.bool value)
  | string (depth : Nat) (value : String) : Plain depth (.string value)
  | array {depth : Nat} {items : List Json} (h : ∀ item ∈ items, Plain depth item) :
      Plain (depth + 1) (.array items)
  | object {depth : Nat} {fields : List (String × Json)} (hord : (Json.object fields).Ordered)
      (h : ∀ field ∈ fields, Plain depth field.2) : Plain (depth + 1) (.object fields)

/-- The text of a field. -/
def fieldText (field : String × Json) : String := quote field.1 ++ ":" ++ write field.2

lemma writeItems_eq : ∀ items : List Json, writeItems items = items.map write
  | [] => rfl
  | item :: items => by rw [writeItems, writeItems_eq items, List.map_cons]

lemma writeFields_eq : ∀ fields : List (String × Json), writeFields fields = fields.map fieldText
  | [] => rfl
  | (key, value) :: fields => by rw [writeFields, writeFields_eq fields, List.map_cons, fieldText]

lemma readValue_scalar {c : Char} (hblank : c ∉ [' ', '\n', '\t', '\r'])
    (hopen : c ∉ ['[', '\x7b']) (depth : Nat) (cs : List Char) :
    readValue depth (c :: cs) = readScalar (c :: cs) := by
  cases depth <;> rw [readValue, skipBlank_cons hblank] <;> split <;> simp_all

lemma readAs_string (depth : Nat) (s : String) :
    ReadAs (readValue depth) (write (.string s)) (.string s) := by
  obtain ⟨body, hquote, hbody⟩ := exists_toList_quote s
  rw [ReadAs, write, hquote]
  refine ⟨⟨'"', body, rfl, by decide⟩, fun rest => ?_⟩
  rw [List.cons_append, readValue_scalar (by decide) (by decide), readScalar, hbody]
  rfl

lemma readAs_field {depth : Nat} {field : String × Json}
    (h : ReadAs (readValue depth) (write field.2) field.2) :
    ReadAs (readField (readValue depth)) (fieldText field) field := by
  obtain ⟨body, hquote, hbody⟩ := exists_toList_quote field.1
  have htext : (fieldText field).toList = '"' :: (body ++ ':' :: (write field.2).toList) := by
    rw [fieldText, String.toList_append, String.toList_append, hquote, List.append_assoc]
    rfl
  rw [ReadAs, htext]
  refine ⟨⟨'"', _, rfl, by decide⟩, fun rest => ?_⟩
  rw [List.cons_append, readField, skipBlank_cons (by decide), List.append_assoc, List.cons_append]
  have hcolon : ':' ∉ [' ', '\n', '\t', '\r'] := by decide
  simp only [hbody, Option.bind_eq_bind, Option.bind_some, skipBlank_cons hcolon, h.2]
  rfl

lemma readAs_array {depth : Nat} {items : List Json}
    (h : ∀ item ∈ items, ReadAs (readValue depth) (write item) item) :
    ReadAs (readValue (depth + 1)) (write (.array items)) (.array items) := by
  have htext : (write (.array items)).toList
      = '[' :: ((String.intercalate "," (items.map write)).toList ++ [']']) := by
    rw [write, writeItems_eq, String.toList_append, String.toList_append]
    rfl
  rw [ReadAs, htext]
  refine ⟨⟨'[', _, rfl, by decide⟩, fun rest => ?_⟩
  have hitems := readContainer_intercalate (by decide : ']' ∈ [']', '\x7d']) h rest
  rw [List.cons_append, List.append_assoc, List.singleton_append, readValue,
    skipBlank_cons (by decide)]
  simp only [hitems, Option.map_some]

lemma readAs_object {depth : Nat} {fields : List (String × Json)}
    (hord : (Json.object fields).Ordered)
    (h : ∀ field ∈ fields, ReadAs (readValue depth) (write field.2) field.2) :
    ReadAs (readValue (depth + 1)) (write (.object fields)) (.object fields) := by
  have htext : (write (.object fields)).toList
      = '\x7b' :: ((String.intercalate "," (fields.map fieldText)).toList ++ ['\x7d']) := by
    rw [write, writeFields_eq, String.toList_append, String.toList_append]
    rfl
  rw [ReadAs, htext]
  refine ⟨⟨'\x7b', _, rfl, by decide⟩, fun rest => ?_⟩
  have hfields := readContainer_intercalate (by decide : '\x7d' ∈ [']', '\x7d'])
    (fun field hfield => readAs_field (h field hfield)) rest
  rw [List.cons_append, List.append_assoc, List.singleton_append, readValue,
    skipBlank_cons (by decide)]
  simp only [hfields, Option.map_some, ofFields, Assoc.ofList_of_ascending hord]

/-- **A plain value is read from its text, whatever comes behind it.** -/
theorem readAs_write {depth : Nat} {v : Json} (h : Plain depth v) :
    ReadAs (readValue depth) (write v) v := by
  induction h with
  | null depth =>
      refine ⟨⟨'n', "ull".toList, rfl, by decide⟩, fun rest => ?_⟩
      exact readValue_scalar (by decide) (by decide) depth _
  | bool depth value =>
      cases value with
      | true =>
          refine ⟨⟨'t', "rue".toList, rfl, by decide⟩, fun rest => ?_⟩
          exact readValue_scalar (by decide) (by decide) depth _
      | false =>
          refine ⟨⟨'f', "alse".toList, rfl, by decide⟩, fun rest => ?_⟩
          exact readValue_scalar (by decide) (by decide) depth _
  | string depth value => exact readAs_string depth value
  | array _ ih => exact readAs_array ih
  | object hord _ ih => exact readAs_object hord ih

/-- **What is written of a plain value is read back.** -/
theorem read?_write {v : Json} (h : Plain maxDepth v) : read? (write v) = some v := by
  have hread := (readAs_write h).2 []
  rw [List.append_nil] at hread
  rw [read?, hread]
  rfl

end Placeholders.Json
