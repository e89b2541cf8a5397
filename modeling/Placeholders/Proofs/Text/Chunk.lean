import Mathlib.Data.List.Perm.Basic
import Placeholders.Proofs.Assoc
import Placeholders.Proofs.Text.Replace

/-!
# Texts with holes

A text in which a mark only ever begins a placeholder is a row of chunks: plain texts without the
mark, and holes, each of which stands for the mark and a spec.  On chunks, replacing is filling
holes.

* `Marks` — the specs of a mark: they do not hold it, and none is a prefix of another.
* `Chunk`, `assemble` — the chunks and the text they stand for.
* `MarksOnly` — the texts in which the mark only ever begins a placeholder; `exists_chunks` and
  `marksOnly_assemble` say that these are the rows of chunks.
* `Chunk.fill` — a hole whose spec has a text becomes this text, any other hole stays.
* **`replaceWords_assemble`** — one pass over the text fills the holes of its chunks.
* **`foldl_replaceWords`** — so does one pass for each spec, one after the other, if the mark is in
  no text that is put in: then there is nothing in these texts to replace, and every hole is still
  there for its own pass.
* `replaceWords_perm` — the order of the specs does not matter.
-/

namespace Placeholders.Text

/-- A mark that cannot be mistaken: it is in no spec, and no spec begins with another one. -/
structure Marks (mark : Char) (specs : List (List Char)) : Prop where
  clean : ∀ spec ∈ specs, mark ∉ spec
  prefixFree : ∀ s ∈ specs, ∀ t ∈ specs, s <+: t → s = t

/-- A part of a text: a plain text, or a hole for a spec. -/
inductive Chunk where
  | plain (chars : List Char)
  | hole (spec : List Char)

namespace Chunk

/-- The characters of a chunk.  A hole is written as the mark and the spec. -/
def chars (mark : Char) : Chunk → List Char
  | .plain chars => chars
  | .hole spec => mark :: spec

/-- The mark is in no plain text, and the specs of holes are known. -/
def Fits (mark : Char) (specs : List (List Char)) : Chunk → Prop
  | .plain chars => mark ∉ chars
  | .hole spec => spec ∈ specs

instance (mark : Char) (specs : List (List Char)) : DecidablePred (Fits mark specs)
  | .plain chars => inferInstanceAs (Decidable (mark ∉ chars))
  | .hole spec => inferInstanceAs (Decidable (spec ∈ specs))

/-- Fills a hole with the text of its spec, if there is one. -/
def fill (steps : List (List Char × List Char)) : Chunk → Chunk
  | .plain chars => .plain chars
  | .hole spec =>
    match steps.lookup spec with
    | some new => .plain new
    | none => .hole spec

end Chunk

/-- The text that chunks stand for. -/
def assemble (mark : Char) (chunks : List Chunk) : List Char := chunks.flatMap (Chunk.chars mark)

/-- The table that replaces the placeholders of some specs. -/
def placeholders (mark : Char) (steps : List (List Char × List Char)) :
    List (List Char × List Char) :=
  steps.map fun step => (mark :: step.1, step.2)

variable {mark : Char} {specs : List (List Char)} {steps : List (List Char × List Char)}

/-! ## Taking a text apart -/

/-- The texts in which the mark only ever begins a placeholder. -/
def MarksOnly (mark : Char) (specs : List (List Char)) (text : List Char) : Prop :=
  ∀ before after, text = before ++ mark :: after → ∃ spec ∈ specs, spec <+: after

/-- Such a text is a row of chunks. -/
lemma exists_chunks : ∀ text : List Char, MarksOnly mark specs text →
    ∃ chunks, assemble mark chunks = text ∧ ∀ chunk ∈ chunks, chunk.Fits mark specs
  | [], _ => ⟨[], rfl, fun chunk h => absurd h List.not_mem_nil⟩
  | a :: text, h => by
      by_cases ha : a = mark
      · obtain ⟨spec, hspec, rest, hrest⟩ := h [] text (by rw [ha, List.nil_append])
        have hshort : rest.length < (a :: text).length := by
          rw [List.length_cons, ← hrest, List.length_append]
          omega
        obtain ⟨chunks, hchunks, hfits⟩ := exists_chunks rest fun before after hafter =>
          h (a :: spec ++ before) after (by rw [← hrest, hafter]; simp)
        refine ⟨.hole spec :: chunks, ?_, List.forall_mem_cons.mpr ⟨hspec, hfits⟩⟩
        change mark :: spec ++ assemble mark chunks = a :: text
        rw [hchunks, List.cons_append, hrest, ha]
      · obtain ⟨chunks, hchunks, hfits⟩ := exists_chunks text fun before after hafter =>
          h (a :: before) after (by rw [hafter, List.cons_append])
        refine ⟨.plain [a] :: chunks, ?_, List.forall_mem_cons.mpr ⟨?_, hfits⟩⟩
        · change [a] ++ assemble mark chunks = a :: text
          rw [hchunks, List.singleton_append]
        · exact fun hmem => ha (List.mem_singleton.mp hmem).symm
termination_by text => text.length

/-- A mark is behind a text without it. -/
lemma exists_of_append_eq {front rest before after : List Char} (hfront : mark ∉ front)
    (h : front ++ rest = before ++ mark :: after) : ∃ before', rest = before' ++ mark :: after := by
  rcases List.append_eq_append_iff.mp h with ⟨as, -, hrest⟩ | ⟨as, hfront', hafter⟩
  · exact ⟨as, hrest⟩
  · cases as with
    | nil => exact ⟨[], hafter.symm⟩
    | cons b as =>
        obtain ⟨rfl, -⟩ := List.cons.inj hafter
        exact absurd (by simp [hfront']) hfront

/-- Wherever the mark is, a hole begins. -/
lemma exists_hole (hmarks : Marks mark specs) : ∀ (chunks : List Chunk) {before after : List Char},
    (∀ chunk ∈ chunks, chunk.Fits mark specs) → assemble mark chunks = before ++ mark :: after →
    ∃ spec rest, .hole spec ∈ chunks ∧ after = spec ++ rest
  | [], before, after, _, h => by simp [assemble] at h
  | .plain chars :: chunks, before, after, hfits, h => by
      obtain ⟨hplain, hfits⟩ := List.forall_mem_cons.mp hfits
      obtain ⟨before', h'⟩ := exists_of_append_eq hplain h
      obtain ⟨spec, rest, hmem, hafter⟩ := exists_hole hmarks chunks hfits h'
      exact ⟨spec, rest, List.mem_cons_of_mem _ hmem, hafter⟩
  | .hole spec :: chunks, before, after, hfits, h => by
      obtain ⟨hspec, hfits⟩ := List.forall_mem_cons.mp hfits
      change mark :: (spec ++ assemble mark chunks) = before ++ mark :: after at h
      cases before with
      | nil =>
          obtain ⟨-, hafter⟩ := List.cons.inj h
          exact ⟨spec, _, List.mem_cons_self .., hafter.symm⟩
      | cons b before =>
          obtain ⟨-, hrest⟩ := List.cons.inj h
          obtain ⟨before', h'⟩ := exists_of_append_eq (hmarks.clean spec hspec) hrest
          obtain ⟨spec', rest, hmem, hafter⟩ := exists_hole hmarks chunks hfits h'
          exact ⟨spec', rest, List.mem_cons_of_mem _ hmem, hafter⟩

/-- In a row of chunks the mark only ever begins a placeholder. -/
lemma marksOnly_assemble (hmarks : Marks mark specs) {chunks : List Chunk}
    (hfits : ∀ chunk ∈ chunks, chunk.Fits mark specs) :
    MarksOnly mark specs (assemble mark chunks) := by
  intro before after h
  obtain ⟨spec, rest, hmem, rfl⟩ := exists_hole hmarks chunks hfits h
  exact ⟨spec, hfits _ hmem, List.prefix_append spec rest⟩

lemma infix_of_hole {spec : List Char} {chunks : List Chunk} (h : .hole spec ∈ chunks) :
    mark :: spec <:+: assemble mark chunks := by
  obtain ⟨front, back, rfl⟩ := List.append_of_mem h
  exact ⟨assemble mark front, assemble mark back, by simp [assemble, Chunk.chars]⟩

/-- The mark with a spec behind it is a hole for this spec. -/
lemma mark_infix_iff (hmarks : Marks mark specs) {chunks : List Chunk}
    (hfits : ∀ chunk ∈ chunks, chunk.Fits mark specs) {spec : List Char} (hspec : spec ∈ specs) :
    mark :: spec <:+: assemble mark chunks ↔ .hole spec ∈ chunks := by
  refine ⟨fun h => ?_, infix_of_hole⟩
  obtain ⟨before, after, h⟩ := h
  rw [List.append_assoc, List.cons_append] at h
  obtain ⟨spec', rest, hmem, hafter⟩ := exists_hole hmarks chunks hfits h.symm
  have hspec' : spec' ∈ specs := hfits _ hmem
  have hpre : spec <+: spec' ++ rest := hafter ▸ List.prefix_append spec after
  rcases List.prefix_or_prefix_of_prefix hpre (List.prefix_append spec' rest) with h | h
  · exact hmarks.prefixFree spec hspec spec' hspec' h ▸ hmem
  · exact hmarks.prefixFree spec' hspec' spec hspec h ▸ hmem

/-! ## One pass -/

/-- Where there is no mark, nothing is replaced. -/
lemma replaceWords_append_of_not_mem : ∀ (front : List Char), mark ∉ front → ∀ rest : List Char,
    replaceWords (placeholders mark steps) (front ++ rest)
      = front ++ replaceWords (placeholders mark steps) rest
  | [], _, _ => rfl
  | a :: front, hfront, rest => by
      obtain ⟨hne, hfront⟩ := not_or.mp fun h => hfront (List.mem_cons.mpr h)
      have hfind : (placeholders mark steps).find?
          (fun entry => entry.1.isPrefixOf (a :: (front ++ rest))) = none := by
        rw [List.find?_eq_none]
        intro entry hentry
        obtain ⟨step, -, rfl⟩ := List.mem_map.mp hentry
        simp [hne]
      rw [List.cons_append, replaceWords_of_find_none hfind,
        replaceWords_append_of_not_mem front hfront rest, List.cons_append]

/-- At a hole, the table has the entry of its spec and no other one. -/
lemma find?_placeholders (hmarks : Marks mark specs) {spec : List Char} (hspec : spec ∈ specs)
    (rest : List Char) : ∀ steps : List (List Char × List Char), (∀ step ∈ steps, step.1 ∈ specs) →
      (placeholders mark steps).find? (fun entry => entry.1.isPrefixOf (mark :: spec ++ rest))
        = (steps.lookup spec).map fun new => (mark :: spec, new)
  | [], _ => rfl
  | (s, new) :: steps, hsteps => by
      have ih := find?_placeholders hmarks hspec rest steps fun t ht =>
        hsteps t (List.mem_cons_of_mem _ ht)
      rw [placeholders, List.map_cons, ← placeholders, List.find?_cons, List.lookup_cons]
      by_cases hs : spec = s
      · subst hs
        have hpre : (mark :: spec).isPrefixOf (mark :: spec ++ rest) = true :=
          List.isPrefixOf_iff_prefix.mpr (List.prefix_append _ _)
        rw [hpre, beq_self_eq_true]
        rfl
      · have hno : (mark :: s).isPrefixOf (mark :: spec ++ rest) = false := by
          rw [Bool.eq_false_iff, ne_eq, List.isPrefixOf_iff_prefix, List.cons_append,
            List.prefix_cons_inj]
          -- two specs that begin the same text are comparable
          intro hpre
          have hs' := hsteps (s, new) (List.mem_cons_self ..)
          rcases List.prefix_or_prefix_of_prefix hpre (List.prefix_append spec rest) with h | h
          · exact hs (hmarks.prefixFree s hs' spec hspec h).symm
          · exact hs (hmarks.prefixFree spec hspec s hs' h)
        have hne : (spec == s) = false := beq_eq_false_iff_ne.mpr hs
        rw [hno, hne]
        exact ih

/-- **One pass over a text fills the holes of its chunks.** -/
theorem replaceWords_assemble (hmarks : Marks mark specs)
    (hsteps : ∀ step ∈ steps, step.1 ∈ specs) : ∀ chunks : List Chunk,
      (∀ chunk ∈ chunks, chunk.Fits mark specs) →
      replaceWords (placeholders mark steps) (assemble mark chunks)
        = assemble mark (chunks.map (Chunk.fill steps))
  | [], _ => rfl
  | .plain chars :: chunks, hfits => by
      have ih := replaceWords_assemble hmarks hsteps chunks fun chunk h =>
        hfits chunk (List.mem_cons_of_mem _ h)
      have hplain : mark ∉ chars := hfits (.plain chars) (List.mem_cons_self ..)
      change replaceWords _ (chars ++ assemble mark chunks) = chars ++ assemble mark _
      rw [replaceWords_append_of_not_mem chars hplain, ih]
  | .hole spec :: chunks, hfits => by
      have ih := replaceWords_assemble hmarks hsteps chunks fun chunk h =>
        hfits chunk (List.mem_cons_of_mem _ h)
      have hspec : spec ∈ specs := hfits (.hole spec) (List.mem_cons_self ..)
      have hfind := find?_placeholders hmarks hspec (assemble mark chunks) steps hsteps
      change replaceWords _ (mark :: spec ++ assemble mark chunks)
        = (Chunk.fill steps (.hole spec)).chars mark ++ assemble mark _
      rw [Chunk.fill]
      cases hlookup : steps.lookup spec with
      | some new =>
          rw [hlookup] at hfind
          rw [replaceWords_of_find (List.cons_ne_nil _ _) hfind, ih]
          rfl
      | none =>
          rw [hlookup, List.cons_append] at hfind
          rw [List.cons_append, replaceWords_of_find_none hfind,
            replaceWords_append_of_not_mem spec (hmarks.clean spec hspec), ih]
          rfl

/-! ## One pass for each spec -/

/-- Filling with clean texts leaves a row of chunks. -/
lemma Chunk.Fits.fill (hclean : ∀ step ∈ steps, mark ∉ step.2) {chunk : Chunk}
    (h : chunk.Fits mark specs) : (chunk.fill steps).Fits mark specs := by
  cases chunk with
  | plain chars => exact h
  | hole spec =>
      rw [Chunk.fill]
      cases hlookup : steps.lookup spec with
      | some new =>
          obtain ⟨front, back, rfl, -⟩ := List.lookup_eq_some_iff.mp hlookup
          exact hclean (spec, new) (by simp)
      | none => exact h

/-- The holes that stay are those whose spec has no text. -/
lemma Chunk.hole_mem_map_fill {chunks : List Chunk} {spec : List Char} :
    .hole spec ∈ chunks.map (Chunk.fill steps)
      ↔ .hole spec ∈ chunks ∧ steps.lookup spec = none := by
  rw [List.mem_map]
  constructor
  · rintro ⟨chunk, hmem, hfill⟩
    cases chunk with
    | plain chars => cases hfill
    | hole spec' =>
        rw [Chunk.fill] at hfill
        cases hlookup : steps.lookup spec' with
        | some new => rw [hlookup] at hfill; cases hfill
        | none =>
            rw [hlookup] at hfill
            cases hfill
            exact ⟨hmem, hlookup⟩
  · rintro ⟨hmem, hlookup⟩
    exact ⟨.hole spec, hmem, by rw [Chunk.fill, hlookup]⟩

/-- Filling for one spec and then for the others fills for all of them. -/
lemma Chunk.fill_fill (step : List Char × List Char) (steps : List (List Char × List Char))
    (chunk : Chunk) : (chunk.fill [step]).fill steps = chunk.fill (step :: steps) := by
  cases chunk with
  | plain chars => rfl
  | hole spec =>
      obtain ⟨s, new⟩ := step
      simp only [Chunk.fill, List.lookup_cons, List.lookup_nil]
      cases hs : spec == s <;> rfl

/-- One pass for each spec fills the holes too. -/
lemma foldl_replaceWords_assemble (hmarks : Marks mark specs) :
    ∀ (steps : List (List Char × List Char)) (chunks : List Chunk),
      (∀ step ∈ steps, step.1 ∈ specs ∧ mark ∉ step.2) →
      (∀ chunk ∈ chunks, chunk.Fits mark specs) →
      steps.foldl (fun text step => replaceWords (placeholders mark [step]) text)
          (assemble mark chunks)
        = assemble mark (chunks.map (Chunk.fill steps))
  | [], chunks, _, _ => by
      have hid : Chunk.fill [] = id := by
        funext chunk
        cases chunk <;> rfl
      rw [List.foldl_nil, hid, List.map_id]
  | step :: steps, chunks, hsteps, hfits => by
      obtain ⟨hstep, hsteps⟩ := List.forall_mem_cons.mp hsteps
      have hone : ∀ s ∈ [step], s.1 ∈ specs ∧ mark ∉ s.2 := List.forall_mem_singleton.mpr hstep
      have hfilled : ∀ chunk ∈ chunks.map (Chunk.fill [step]), chunk.Fits mark specs := by
        intro chunk hchunk
        obtain ⟨chunk, hmem, rfl⟩ := List.mem_map.mp hchunk
        exact (hfits chunk hmem).fill fun s hs => (hone s hs).2
      rw [List.foldl_cons, replaceWords_assemble hmarks (fun s hs => (hone s hs).1) chunks hfits,
        foldl_replaceWords_assemble hmarks steps _ hsteps hfilled, List.map_map]
      exact congrArg (assemble mark)
        (List.map_congr_left fun chunk _ => Chunk.fill_fill step steps chunk)

/-- **One pass for each spec does what one pass for all of them does.** -/
theorem foldl_replaceWords {text : List Char} (hmarks : Marks mark specs)
    (hsteps : ∀ step ∈ steps, step.1 ∈ specs ∧ mark ∉ step.2) (htext : MarksOnly mark specs text) :
    steps.foldl (fun text step => replaceWords (placeholders mark [step]) text) text
      = replaceWords (placeholders mark steps) text := by
  obtain ⟨chunks, rfl, hfits⟩ := exists_chunks text htext
  rw [foldl_replaceWords_assemble hmarks steps chunks hsteps hfits,
    replaceWords_assemble hmarks (fun step hstep => (hsteps step hstep).1) chunks hfits]

/-! ## The order of the specs -/

/-- If no spec is there twice, the order of the table does not matter. -/
lemma replaceWords_perm {steps' : List (List Char × List Char)} {text : List Char}
    (hmarks : Marks mark specs) (hsteps : ∀ step ∈ steps, step.1 ∈ specs)
    (hnodup : (steps.map Prod.fst).Nodup) (hperm : steps'.Perm steps)
    (htext : MarksOnly mark specs text) :
    replaceWords (placeholders mark steps') text = replaceWords (placeholders mark steps) text := by
  obtain ⟨chunks, rfl, hfits⟩ := exists_chunks text htext
  have hnodup' : (steps'.map Prod.fst).Nodup := (hperm.map Prod.fst).nodup_iff.mpr hnodup
  have hlookup : ∀ spec, steps'.lookup spec = steps.lookup spec := fun spec =>
    Option.ext fun new => by
      rw [Assoc.lookup_eq_some_iff_mem hnodup', Assoc.lookup_eq_some_iff_mem hnodup,
        hperm.mem_iff]
  have hfill : Chunk.fill steps' = Chunk.fill steps := by
    funext chunk
    cases chunk with
    | plain chars => rfl
    | hole spec => rw [Chunk.fill, Chunk.fill, hlookup]
  rw [replaceWords_assemble hmarks hsteps chunks hfits, ← hfill,
    replaceWords_assemble hmarks (fun step h => hsteps step (hperm.mem_iff.mp h)) chunks hfits]

end Placeholders.Text
