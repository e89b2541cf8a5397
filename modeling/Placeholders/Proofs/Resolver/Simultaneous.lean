import Mathlib.Data.List.Nodup
import Placeholders.Proofs.Resolver.Words
import Placeholders.Proofs.Text.Chunk

/-!
# Rules that do not interfere

Every replacement works on what those before it have made, so in general the order of the rules
matters: a text may bring a placeholder along, and a spec may cut another one short.  Here is when
none of this happens, and what follows.

* `IsNameSpec` — a word that begins with a letter.
* `Independent` — the identifier is one character, a mark; specs are names, and none is a prefix of
  another; no text that is put in holds the mark; and the target holds it only before a spec.
* `simultaneous` — the target after one pass that replaces all placeholders at once.
* `hasLeftover_simultaneous_iff` — what is left over in it.
* **`resolve_simultaneous`** — resolving makes just this text, under either policy, and any order of
  the rules gives the same outcome.
-/

namespace Placeholders.Resolver

open Pattern Text

/-- The spec is a letter and then letters, digits and underscores. -/
def IsNameSpec (spec : String) : Prop := IsWordSpec spec ∧ spec.toList.head?.any Char.isAlpha

instance : DecidablePred IsNameSpec := fun spec =>
  inferInstanceAs (Decidable (IsWordSpec spec ∧ spec.toList.head?.any Char.isAlpha))

/-- The specs of the rules, on characters. -/
def specChars (r : Resolver) : List (List Char) :=
  r.rules.entries.map fun entry => entry.spec.toList

/-- The queue, on characters. -/
def charSteps (steps : List (String × String)) : List (List Char × List Char) :=
  steps.map fun step => (step.1.toList, step.2.toList)

/-- The rules do not interfere: neither with each other nor with the texts that they call for. -/
structure Independent (r : Resolver) (mark : Char) (text : RuleEntry → Option String) : Prop where
  identifier : r.identifier = String.singleton mark
  notWord : ¬ (mark.isAlphanum ∨ mark = '_')
  names : ∀ entry ∈ r.rules.entries, IsNameSpec entry.spec
  prefixFree : ∀ a ∈ r.rules.entries, ∀ b ∈ r.rules.entries,
    a.spec.toList <+: b.spec.toList → a.spec = b.spec
  /-- every spec has one entry, as in every table with a right index (`RuleTable.Indexed.nodup`) -/
  distinct : (r.rules.entries.map (·.spec)).Nodup
  clean : ∀ entry ∈ r.rules.entries, ∀ new ∈ text entry, mark ∉ new.toList
  target : ∀ before after, r.target.toList = before ++ mark :: after →
    ∃ entry ∈ r.rules.entries, entry.spec.toList <+: after

/-- The target after one pass that replaces every placeholder of a rule that calls for a text. -/
def simultaneous (r : Resolver) (mark : Char) (text : RuleEntry → Option String) : String :=
  String.ofList
    (replaceWords (placeholders mark (charSteps (queued text r.rules.entries))) r.target.toList)

variable {r : Resolver} {mark : Char} {text : RuleEntry → Option String}

lemma mem_charSteps {entries : List RuleEntry} {spec new : List Char} :
    (spec, new) ∈ charSteps (queued text entries)
      ↔ ∃ entry ∈ entries, entry.spec.toList = spec
        ∧ (text entry).map String.toList = some new := by
  rw [charSteps, List.mem_map]
  constructor
  · rintro ⟨step, hstep, heq⟩
    obtain ⟨rfl, rfl⟩ := Prod.mk.inj heq
    obtain ⟨entry, hentry, hspec, hnew⟩ := mem_queued.mp hstep
    exact ⟨entry, hentry, by rw [hspec], by rw [hnew, Option.map_some]⟩
  · rintro ⟨entry, hentry, rfl, hnew⟩
    obtain ⟨new', hnew', rfl⟩ := Option.map_eq_some_iff.mp hnew
    exact ⟨(entry.spec, new'), mem_queued.mpr ⟨entry, hentry, rfl, hnew'⟩, rfl⟩

namespace Independent

/-! ## The conditions, on characters -/

lemma identifier_ne_empty (h : Independent r mark text) : r.identifier ≠ "" := by
  rw [h.identifier]
  exact String.singleton_ne_empty

lemma marks (h : Independent r mark text) : Marks mark r.specChars where
  clean := by
    intro spec hspec hmark
    obtain ⟨entry, hentry, rfl⟩ := List.mem_map.mp hspec
    exact h.notWord ((h.names entry hentry).1 mark hmark)
  prefixFree := by
    intro s hs t ht hpre
    obtain ⟨a, ha, rfl⟩ := List.mem_map.mp hs
    obtain ⟨b, hb, rfl⟩ := List.mem_map.mp ht
    rw [h.prefixFree a ha b hb hpre]

lemma marksOnly (h : Independent r mark text) : MarksOnly mark r.specChars r.target.toList := by
  intro before after heq
  obtain ⟨entry, hentry, hpre⟩ := h.target before after heq
  exact ⟨entry.spec.toList, List.mem_map.mpr ⟨entry, hentry, rfl⟩, hpre⟩

lemma steps (h : Independent r mark text) :
    ∀ step ∈ charSteps (queued text r.rules.entries), step.1 ∈ r.specChars ∧ mark ∉ step.2 := by
  rintro ⟨spec, new⟩ hstep
  obtain ⟨entry, hentry, rfl, hnew⟩ := mem_charSteps.mp hstep
  obtain ⟨new', hnew', rfl⟩ := Option.map_eq_some_iff.mp hnew
  exact ⟨List.mem_map.mpr ⟨entry, hentry, rfl⟩, h.clean entry hentry new' hnew'⟩

lemma nodup_steps (h : Independent r mark text) :
    ((charSteps (queued text r.rules.entries)).map Prod.fst).Nodup := by
  have hsub : ∀ entries : List RuleEntry,
      ((queued text entries).map Prod.fst).Sublist (entries.map (·.spec)) := by
    intro entries
    induction entries with
    | nil => exact List.Sublist.refl _
    | cons entry entries ih =>
        rw [queued, List.filterMap_cons]
        cases text entry with
        | none => exact ih.cons _
        | some new => exact ih.cons_cons _
  have hnodup := (hsub r.rules.entries).nodup h.distinct
  have hmap : (charSteps (queued text r.rules.entries)).map Prod.fst
      = ((queued text r.rules.entries).map Prod.fst).map String.toList := by
    rw [charSteps, List.map_map, List.map_map]
    rfl
  rw [hmap]
  exact List.Nodup.map (fun _ _ => String.toList_injective) hnodup

/-- The entries without a text are those that the table does not know. -/
lemma lookup_eq_none_iff (h : Independent r mark text) {entry : RuleEntry}
    (hentry : entry ∈ r.rules.entries) :
    (charSteps (queued text r.rules.entries)).lookup entry.spec.toList = none
      ↔ text entry = none := by
  have hsome (new : List Char) :
      (charSteps (queued text r.rules.entries)).lookup entry.spec.toList = some new
        ↔ (text entry).map String.toList = some new := by
    rw [Assoc.lookup_eq_some_iff_mem h.nodup_steps, mem_charSteps]
    constructor
    · rintro ⟨entry', hentry', hspec, hnew⟩
      obtain rfl : entry' = entry :=
        List.inj_on_of_nodup_map h.distinct hentry' hentry (String.toList_injective hspec)
      exact hnew
    · intro hnew
      exact ⟨entry, hentry, rfl, hnew⟩
  rw [Option.ext hsome, Option.map_eq_none_iff]

/-! ## The text -/

/-- One insertion after the other makes the text that one pass makes. -/
lemma foldl_insertion_eq (h : Independent r mark text)
    (hfits : ∀ entry ∈ r.rules.entries,
      compile (placeholder r.identifier entry.spec) ≠ .error .tooLarge) :
    (queued text r.rules.entries).foldl (insertion r.identifier) r.target
      = r.simultaneous mark text := by
  have hlist : r.identifier.toList = [mark] := by
    rw [h.identifier, String.toList_singleton]
  have hsteps : ∀ step ∈ queued text r.rules.entries, FitsWord r.identifier step.1 :=
    forall_mem_queued fun entry hentry _ _ => ⟨(h.names entry hentry).1, hfits entry hentry⟩
  rw [foldl_insertion h.identifier_ne_empty _ _ hsteps, hlist, simultaneous,
    ← foldl_replaceWords h.marks h.steps h.marksOnly, charSteps, List.foldl_map]
  rfl

/-- Something is left over just if the target has a placeholder of an entry without a text. -/
lemma hasLeftover_simultaneous_iff (h : Independent r mark text) :
    HasLeftover r.identifier.toList (r.simultaneous mark text).toList
      ↔ ∃ entry ∈ r.rules.entries, text entry = none
        ∧ mark :: entry.spec.toList <:+: r.target.toList := by
  obtain ⟨chunks, hchunks, hfits⟩ := exists_chunks r.target.toList h.marksOnly
  have hout : (r.simultaneous mark text).toList
      = assemble mark (chunks.map (Chunk.fill (charSteps (queued text r.rules.entries)))) := by
    rw [simultaneous, String.toList_ofList, ← hchunks,
      replaceWords_assemble h.marks (fun step hstep => (h.steps step hstep).1) chunks hfits]
  have hfilled : ∀ chunk ∈ chunks.map (Chunk.fill (charSteps (queued text r.rules.entries))),
      chunk.Fits mark r.specChars := by
    intro chunk hchunk
    obtain ⟨chunk, hmem, rfl⟩ := List.mem_map.mp hchunk
    exact (hfits chunk hmem).fill fun step hstep => (h.steps step hstep).2
  rw [hout, h.identifier, String.toList_singleton]
  constructor
  · rintro ⟨a, -, before, after, heq⟩
    rw [List.append_assoc, List.singleton_append, List.cons_append] at heq
    obtain ⟨spec, rest, hhole, -⟩ := exists_hole h.marks _ hfilled heq.symm
    obtain ⟨hmem, hlookup⟩ := Chunk.hole_mem_map_fill.mp hhole
    obtain ⟨entry, hentry, rfl⟩ := List.mem_map.mp (hfits _ hmem)
    exact ⟨entry, hentry, (h.lookup_eq_none_iff hentry).mp hlookup, hchunks ▸ infix_of_hole hmem⟩
  · rintro ⟨entry, hentry, hnone, hin⟩
    have hspec : entry.spec.toList ∈ r.specChars := List.mem_map.mpr ⟨entry, hentry, rfl⟩
    have hmem := (mark_infix_iff h.marks hfits hspec).mp (hchunks ▸ hin)
    have hhole := Chunk.hole_mem_map_fill.mpr ⟨hmem, (h.lookup_eq_none_iff hentry).mpr hnone⟩
    obtain ⟨a, ha, halpha⟩ := (Option.any_eq_true _ _).mp (h.names entry hentry).2
    obtain ⟨rest, hrest⟩ := List.head?_eq_some_iff.mp ha
    refine ⟨a, halpha, List.IsInfix.trans ?_ (infix_of_hole hhole)⟩
    rw [hrest]
    exact ⟨[], rest, rfl⟩

/-- The order of the rules does not matter for the text. -/
lemma simultaneous_withRules (h : Independent r mark text) {rules : RuleTable}
    (hperm : rules.entries.Perm r.rules.entries) :
    (r.withRules rules).simultaneous mark text = r.simultaneous mark text := by
  have hsteps : (charSteps (queued text rules.entries)).Perm
      (charSteps (queued text r.rules.entries)) := (hperm.filterMap _).map _
  exact congrArg String.ofList (replaceWords_perm h.marks (fun step hstep => (h.steps step hstep).1)
    h.nodup_steps hsteps h.marksOnly)

lemma withRules (h : Independent r mark text) {rules : RuleTable}
    (hperm : rules.entries.Perm r.rules.entries) : Independent (r.withRules rules) mark text where
  identifier := h.identifier
  notWord := h.notWord
  names entry hentry := h.names entry (hperm.mem_iff.mp hentry)
  prefixFree a ha b hb := h.prefixFree a (hperm.mem_iff.mp ha) b (hperm.mem_iff.mp hb)
  distinct := (hperm.map _).nodup_iff.mpr h.distinct
  clean entry hentry := h.clean entry (hperm.mem_iff.mp hentry)
  target before after heq := by
    obtain ⟨entry, hentry, hpre⟩ := h.target before after heq
    exact ⟨entry, hperm.mem_iff.mpr hentry, hpre⟩

/-! ## Resolving -/

/-- Under either policy the text is made, and then comes the end. -/
lemma resolve_eq_finish {source : Json} (h : Independent r mark text)
    (hfits : ∀ entry ∈ r.rules.entries,
      compile (placeholder r.identifier entry.spec) ≠ .error .tooLarge)
    (hord : source.Ordered) (hstr : source.HoldsStrings)
    (hcalls : ∀ entry ∈ r.rules.entries, Calls source entry (text entry)) :
    r.resolve source = finish r.identifier r.strict (r.simultaneous mark text) := by
  have hpatterns : ∀ step ∈ queued text r.rules.entries, IsPattern r.identifier step.1 :=
    forall_mem_queued fun entry hentry _ _ =>
      ⟨_, compile_placeholder (h.names entry hentry).1 (hfits entry hentry)⟩
  rw [resolve_of_calls h.identifier_ne_empty hord hstr hcalls,
    substitute_of_patterns r.strict r.target hpatterns, h.foldl_insertion_eq hfits]
  rfl

end Independent

/-- **Rules that do not interfere are used all at once.**  Without the strict policy the outcome is
the target after one pass.  With it the outcome is the same unless the target has a placeholder of
an entry that calls for nothing; then the fault has this text.  The order of the rules does not
matter for the outcome, whatever it is. -/
theorem resolve_simultaneous (r : Resolver) (source : Json) (mark : Char)
    (text : RuleEntry → Option String) (h : Independent r mark text)
    (hfits : ∀ entry ∈ r.rules.entries,
      compile (placeholder r.identifier entry.spec) ≠ .error .tooLarge)
    (hord : source.Ordered) (hstr : source.HoldsStrings)
    (hcalls : ∀ entry ∈ r.rules.entries, Calls source entry (text entry)) :
    (r.strict = false → r.resolve source = .ok (r.simultaneous mark text))
      ∧ (r.strict = true →
          (¬ ∃ entry ∈ r.rules.entries, text entry = none
            ∧ mark :: entry.spec.toList <:+: r.target.toList) →
          r.resolve source = .ok (r.simultaneous mark text))
      ∧ (r.strict = true →
          (∃ entry ∈ r.rules.entries, text entry = none
            ∧ mark :: entry.spec.toList <:+: r.target.toList) →
          ∃ spec, r.resolve source
            = .error (.unresolved r.identifier spec (r.simultaneous mark text)))
      ∧ ∀ rules : RuleTable, rules.entries.Perm r.rules.entries →
          (r.withRules rules).resolve source = r.resolve source := by
  have hresolve := h.resolve_eq_finish hfits hord hstr hcalls
  have hleftover : compile (leftover r.identifier) ≠ .error .tooLarge := by
    rw [h.identifier]
    exact compile_leftover_singleton mark
  refine ⟨fun hstrict => ?_, fun hstrict hnone => ?_, fun hstrict hsome => ?_,
    fun rules hperm => ?_⟩
  · rw [hresolve, hstrict]
    rfl
  · rw [hresolve, hstrict]
    exact finish_of_not_hasLeftover hleftover fun hleft =>
      hnone (h.hasLeftover_simultaneous_iff.mp hleft)
  · rw [hresolve, hstrict]
    exact finish_of_hasLeftover hleftover (h.hasLeftover_simultaneous_iff.mpr hsome)
  · rw [hresolve, ← h.simultaneous_withRules hperm]
    exact (h.withRules hperm).resolve_eq_finish
      (fun entry hentry => hfits entry (hperm.mem_iff.mp hentry)) hord hstr
      fun entry hentry => hcalls entry (hperm.mem_iff.mp hentry)

/-- A value, a number from a chain, and a chain without a value. -/
def letter : Resolver where
  target := "Dear :name, :port is for :gone!"
  rules :=
    { catalog := {}
      entries :=
        [⟨"name", .static "all"⟩, ⟨"gone", .chain []⟩,
         ⟨"port", .chain [⟨"seven", fun _ => .ok (.number (.int 7))⟩]⟩]
      positions := [("gone", 1), ("name", 0), ("port", 2)] }

def letterSource : Json := .object [(":name", .string "Bo$1"), ("port", .string "x")]

def letterText (entry : RuleEntry) : Option String :=
  if entry.spec = "name" then some "Bo$1" else if entry.spec = "port" then some "7" else none

lemma letter_independent : Independent letter ':' letterText where
  identifier := rfl
  notWord := by decide
  names := by decide
  prefixFree := by decide
  distinct := by decide
  clean := by decide
  target := by
    have hmarks : Marks ':' letter.specChars := ⟨by decide, by decide⟩
    have h : MarksOnly ':' letter.specChars (assemble ':'
        [.plain "Dear ".toList, .hole "name".toList, .plain ", ".toList, .hole "port".toList,
         .plain " is for ".toList, .hole "gone".toList, .plain "!".toList]) :=
      marksOnly_assemble hmarks (by decide)
    intro before after heq
    obtain ⟨spec, hspec, hpre⟩ := h before after heq
    obtain ⟨entry, hentry, rfl⟩ := List.mem_map.mp hspec
    exact ⟨entry, hentry, hpre⟩

theorem resolve_letter :
    ∃ spec, letter.resolve letterSource
      = .error (.unresolved ":" spec "Dear Bo$1, 7 is for :gone!") := by
  have hord : letterSource.Ordered := by decide
  have hreads : Source.Reads ⟨[("port", "x"), ("name", "Bo$1")]⟩ letterSource :=
    Source.reads_of_ofJson hord rfl
  have h := resolve_simultaneous letter letterSource ':' letterText letter_independent
    (fun entry hentry => ne_tooLarge_of_isOk (by revert entry; decide +kernel)) hord (by decide)
    (fun entry hentry => (calls_iff_replacement hreads).mpr (by revert entry; decide +kernel))
  have hmade : letter.simultaneous ':' letterText = "Dear Bo$1, 7 is for :gone!" := by
    decide +kernel
  rw [← hmade]
  exact h.2.2.1 rfl ⟨⟨"gone", .chain []⟩, by simp [letter], rfl,
    "Dear :name, :port is for ".toList, "!".toList, rfl⟩

end Placeholders.Resolver
