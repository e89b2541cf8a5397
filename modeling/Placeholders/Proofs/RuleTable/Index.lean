import Mathlib.Data.List.Nodup
import Placeholders.Proofs.Assoc
import Placeholders.Proofs.RuleTable.Edit

/-!
# The index of a table

A table keeps its entries in a list and, beside it, the position of each spec.

* `Indexed` — the index leads to the entry of each spec and to nothing else.  `Indexed.nodup`: so no
  spec has two entries.
* `written` — writing a rule into a list of entries that has no index.
* `indexed_write`, **`entries_write`** — the one way in which an entry comes to be keeps the index
  right, and the entries are those that come of writing without an index.
* `Sound` — all that is kept: the index, its size, bare specs and filled chains.
* **`sound_take`** — a step without a fault keeps it; `sound_left` — so does an edit, done or refused.
* `Coherent` — what callers see of it: whichever way they look, they find the same.
* `ruleIn?` — looking through entries without an index.
* **`get?_take`** — looking after a step: its spec has the new rule, all others have theirs.
-/

namespace Placeholders.RuleTable

/-! ## The index -/

/-- The index leads to the entry of each spec and to nothing else. -/
def Indexed (t : RuleTable) : Prop :=
  ∀ spec i, t.positions.lookup spec = some i ↔ t.specAt? i = some spec

/-- **No spec has two entries.** -/
theorem Indexed.nodup {t : RuleTable} (h : t.Indexed) : (t.entries.map (·.spec)).Nodup := by
  rw [List.nodup_iff_getElem?_ne_getElem?]
  intro i j hij hj heq
  obtain ⟨spec, hspec⟩ : ∃ spec, (t.entries.map (·.spec))[j]? = some spec :=
    ⟨_, List.getElem?_eq_getElem hj⟩
  rw [hspec, List.getElem?_map] at heq
  rw [List.getElem?_map] at hspec
  have hi := (h spec i).mpr heq
  rw [(h spec j).mpr hspec] at hi
  exact hij.ne (Option.some.inj hi).symm

/-- A position from the index is the position of an entry. -/
lemma Indexed.lt_length {t : RuleTable} (h : t.Indexed) {spec : String} {i : Nat}
    (hi : t.positions.lookup spec = some i) : i < t.entries.length := by
  obtain ⟨e, he, -⟩ := Option.map_eq_some_iff.mp ((h spec i).mp hi)
  exact (List.getElem?_eq_some_iff.mp he).1

lemma indexed_clear (t : RuleTable) : t.clear.Indexed := by
  intro spec i
  simp [clear, specAt?]

/-- Another rule at a position does not touch the specs. -/
lemma indexed_modifyAt {t : RuleTable} (h : t.Indexed) (i : Nat) (update : Rule → Rule) :
    (t.modifyAt i update).Indexed := by
  intro spec j
  have hsame : (t.modifyAt i update).specAt? j = t.specAt? j := by
    rw [specAt?, modifyAt, List.getElem?_modify, specAt?]
    cases t.entries[j]? with
    | none => rfl
    | some e => by_cases hij : i = j <;> simp [hij]
  rw [hsame]
  exact h spec j

/-- A new entry goes where the index says. -/
lemma indexed_push {t : RuleTable} (h : t.Indexed) {spec : String} (rule : Rule)
    (hspec : t.positions.lookup spec = none) : (t.push spec rule).Indexed := by
  intro k j
  -- the spec is at no position yet
  have hnew : t.specAt? j ≠ some spec := by
    rw [ne_eq, ← h spec j, hspec]
    exact nofun
  simp only [push, Assoc.lookup_insert, specAt?]
  rcases Nat.lt_trichotomy j t.entries.length with hj | rfl | hj
  · rw [List.getElem?_append_left hj]
    by_cases hk : k = spec
    · subst hk
      rw [if_pos rfl]
      exact iff_of_false (fun heq => hj.ne (Option.some.inj heq).symm) hnew
    · rw [if_neg hk]
      exact h k j
  · rw [List.getElem?_append_right (Nat.le_refl _), Nat.sub_self]
    by_cases hk : k = spec
    · subst hk
      rw [if_pos rfl]
      exact iff_of_true rfl rfl
    · rw [if_neg hk]
      exact iff_of_false (fun heq => (h.lt_length heq).false)
        fun heq => hk (Option.some.inj heq).symm
  · rw [List.getElem?_eq_none (by rw [List.length_append, List.length_singleton]; omega)]
    refine iff_of_false (fun heq => ?_) nofun
    by_cases hk : k = spec
    · rw [if_pos hk] at heq
      exact hj.ne (Option.some.inj heq)
    · rw [if_neg hk] at heq
      exact absurd (h.lt_length heq) (Nat.not_lt.mpr hj.le)

lemma indexed_write {t : RuleTable} (h : t.Indexed) (spec : String) (update : Option Rule → Rule) :
    (t.write spec update).Indexed := by
  rw [write]
  cases hspec : t.positions.lookup spec with
  | some i => exact indexed_modifyAt h i _
  | none => exact indexed_push h _ hspec

/-! ## Writing without an index -/

/-- The entries after the rule of a spec is written: the first entry of the spec changes, or there is
a new one at the end. -/
def written (spec : String) (update : Option Rule → Rule) : List RuleEntry → List RuleEntry
  | [] => [⟨spec, update none⟩]
  | e :: rest =>
    if e.spec = spec then ⟨spec, update (some e.rule)⟩ :: rest
    else e :: written spec update rest

section Written

variable {spec : String} {update : Option Rule → Rule}

lemma written_of_forall_ne : ∀ {entries : List RuleEntry}, (∀ e ∈ entries, e.spec ≠ spec) →
    written spec update entries = entries ++ [⟨spec, update none⟩]
  | [], _ => rfl
  | e :: rest, h => by
      obtain ⟨he, hrest⟩ := List.forall_mem_cons.mp h
      rw [written, if_neg he, written_of_forall_ne hrest, List.cons_append]

/-- Changing the entry at the first position of a spec is writing its rule. -/
lemma modify_eq_written : ∀ {entries : List RuleEntry} {i : Nat},
    (entries[i]?).map (·.spec) = some spec →
    (∀ j < i, (entries[j]?).map (·.spec) ≠ some spec) →
    entries.modify i (fun e => { e with rule := update (some e.rule) })
      = written spec update entries
  | [], i, hi, _ => by simp at hi
  | e :: rest, 0, hi, _ => by
      obtain rfl : e.spec = spec := by simpa using hi
      rw [written, if_pos rfl]
      rfl
  | e :: rest, i + 1, hi, hfirst => by
      have he : e.spec ≠ spec := fun heq => hfirst 0 (Nat.succ_pos i) (congrArg some heq)
      have ih : rest.modify i (fun e => { e with rule := update (some e.rule) })
          = written spec update rest :=
        modify_eq_written hi fun j hj => hfirst (j + 1) (Nat.succ_lt_succ hj)
      rw [written, if_neg he, List.modify_succ_cons, ih]

lemma mem_written {e : RuleEntry} : ∀ {entries : List RuleEntry},
    e ∈ written spec update entries →
      e ∈ entries ∨ e.spec = spec ∧ ∃ before, e.rule = update before
  | [], h => by
      obtain rfl := List.mem_singleton.mp h
      exact Or.inr ⟨rfl, none, rfl⟩
  | e' :: rest, h => by
      rw [written] at h
      split_ifs at h with he
      · rcases List.mem_cons.mp h with rfl | h
        · exact Or.inr ⟨rfl, some e'.rule, rfl⟩
        · exact Or.inl (List.mem_cons_of_mem _ h)
      · rcases List.mem_cons.mp h with rfl | h
        · exact Or.inl (List.mem_cons_self ..)
        · exact (mem_written h).imp_left (List.mem_cons_of_mem _)

/-- **The index is only a way to get there faster.** -/
theorem entries_write {t : RuleTable} (h : t.Indexed) :
    (t.write spec update).entries = written spec update t.entries := by
  rw [write]
  cases hspec : t.positions.lookup spec with
  | some i =>
      refine modify_eq_written ((h spec i).mp hspec) fun j hj heq => hj.ne ?_
      rw [← Option.some.injEq, ← (h spec j).mpr heq, hspec]
  | none =>
      refine (written_of_forall_ne fun e he heq => ?_).symm
      obtain ⟨i, hi⟩ := List.mem_iff_getElem?.mp he
      have hat : t.specAt? i = some spec := by rw [specAt?, hi, Option.map_some, heq]
      rw [(h spec i).mpr hat] at hspec
      cases hspec

end Written

/-! ## What is kept -/

/-- What holds of every table that edits lead to. -/
structure Sound (t : RuleTable) : Prop where
  /-- the index leads to the entry of each spec and to nothing else -/
  indexed : t.Indexed
  /-- and is of the same size as the entries -/
  sameSize : t.positions.length = t.entries.length
  /-- no spec has a marker at its front -/
  bare : ∀ e ∈ t.entries, ∀ c ∈ e.spec.toList.head?, c ≠ ':' ∧ c ≠ '&'
  /-- no chain is without a filter -/
  filled : ∀ e ∈ t.entries, e.rule ≠ .chain []

lemma sound_clear (t : RuleTable) : t.clear.Sound where
  indexed := indexed_clear t
  sameSize := rfl
  bare := fun _ he => absurd he List.not_mem_nil
  filled := fun _ he => absurd he List.not_mem_nil

/-- The spec of a key has no marker at its front. -/
lemma normalizeSpec_bare (key : String) :
    ∀ c ∈ (normalizeSpec key).toList.head?, c ≠ ':' ∧ c ≠ '&' := by
  intro c hc
  rw [normalizeSpec, String.toList_ofList] at hc
  have hnot := List.head?_dropWhile_not isMarker key.toList
  rw [Option.mem_def.mp hc] at hnot
  simpa [isMarker] using hnot

/-- A chain without a fault has filters. -/
lemma filters_ne_nil {catalog : Catalog} {key : String} : ∀ {chain : List FilterRef},
    chainFault? catalog key chain = none → chain.filterMap (FilterRef.filter? catalog) ≠ []
  | [], h => by simp [chainFault?] at h
  | ref :: chain, h => by
      obtain ⟨filter, hfilter, -⟩ :=
        FilterRef.resolve_of_known (fault?_of_mem h ref (List.mem_cons_self ..))
      rw [List.filterMap_cons, hfilter]
      exact List.cons_ne_nil _ _

/-- A step without a fault leaves no chain empty. -/
lemma update_ne_chain_nil {catalog : Catalog} {s : Step} (h : s.fault? catalog = none)
    (before : Option Rule) : s.update catalog before ≠ .chain [] := by
  cases s with
  | set key chain => exact fun heq => filters_ne_nil h (Rule.chain.inj heq)
  | add key chain =>
      match before with
      | none | some (.static _) => exact fun heq => filters_ne_nil h (Rule.chain.inj heq)
      | some (.chain filters) =>
          exact fun heq => filters_ne_nil h (List.append_eq_nil_iff.mp (Rule.chain.inj heq)).2
  | static key text => exact nofun

/-- **A step without a fault keeps a table sound.** -/
theorem sound_take {t : RuleTable} (h : t.Sound) {s : Step} (hs : s.fault? t.catalog = none) :
    (t.take s).Sound where
  indexed := indexed_write h.indexed _ _
  sameSize := by
    rw [take, write]
    cases hspec : t.positions.lookup s.spec with
    | some i => exact h.sameSize.trans (List.length_modify ..).symm
    | none =>
        change (Assoc.insert s.spec t.entries.length t.positions).length = (t.entries ++ [_]).length
        rw [Assoc.length_insert _ hspec, h.sameSize, List.length_append, List.length_singleton]
  bare := by
    rw [take, entries_write h.indexed]
    intro e he
    rcases mem_written he with hold | ⟨hspec, -⟩
    · exact h.bare e hold
    · rw [hspec]
      cases s <;> exact normalizeSpec_bare _
  filled := by
    rw [take, entries_write h.indexed]
    intro e he
    rcases mem_written he with hold | ⟨-, before, hrule⟩
    · exact h.filled e hold
    · rw [hrule]
      exact update_ne_chain_nil hs before

/-- So do several steps. -/
lemma sound_takeAll : ∀ {steps : List Step} {t : RuleTable}, t.Sound →
    (∀ s ∈ steps, s.fault? t.catalog = none) → (t.takeAll steps).Sound
  | [], _, h, _ => h
  | s :: steps, t, h, hsteps => by
      obtain ⟨hs, hrest⟩ := List.forall_mem_cons.mp hsteps
      refine sound_takeAll (t := t.take s) (sound_take h hs) ?_
      rwa [catalog_take]

/-- So does an edit that is not refused. -/
lemma sound_after {t : RuleTable} (h : t.Sound) {edit : Edit}
    (hok : edit.fault? t.catalog = none) : (t.after edit).Sound := by
  have hsteps := List.findSome?_eq_none_iff.mp hok
  rw [after]
  cases edit.resets with
  | true => exact sound_takeAll (sound_clear t) hsteps
  | false => exact sound_takeAll h hsteps

/-- **What an edit leaves is sound, be it done or refused.** -/
theorem sound_left {t : RuleTable} (h : t.Sound) (edit : Edit) : ((perform edit).left t).Sound := by
  rw [Work.left, run_perform]
  cases hfault : edit.fault? t.catalog with
  | some fault => exact h
  | none => exact sound_after h hfault

lemma sound_runAll : ∀ (edits : List Edit) {t : RuleTable}, t.Sound → (t.runAll edits).Sound
  | [], _, h => h
  | edit :: edits, _, h => sound_runAll edits (sound_left h edit)

/-! ## Looking -/

/-- The ways to look into a table agree. -/
structure Coherent (t : RuleTable) : Prop extends t.Sound where
  /-- no spec has two entries -/
  nodup : (t.entries.map (·.spec)).Nodup
  /-- no position in the index is out of bounds -/
  inBounds : ∀ spec i, t.positions.lookup spec = some i → i < t.entries.length
  /-- the position of a key is the one place where its spec stands -/
  position?_iff : ∀ key i, t.position? key = some i ↔ t.specAt? i = some (normalizeSpec key)
  /-- the rule of a key is the one of the entry at its position -/
  get?_iff : ∀ key rule, t.get? key = some rule
    ↔ ∃ i, t.position? key = some i ∧ t.entries[i]? = some ⟨normalizeSpec key, rule⟩

lemma Indexed.get?_eq_some_iff {t : RuleTable} (h : t.Indexed) (key : String) (rule : Rule) :
    t.get? key = some rule
      ↔ ∃ i, t.position? key = some i ∧ t.entries[i]? = some ⟨normalizeSpec key, rule⟩ := by
  constructor
  · intro hget
    obtain ⟨i, hi, hrule⟩ := Option.bind_eq_some_iff.mp hget
    obtain ⟨e, he, rfl⟩ := Option.map_eq_some_iff.mp hrule
    refine ⟨i, hi, ?_⟩
    have hspec := (h (normalizeSpec key) i).mp hi
    rw [specAt?, he] at hspec
    rw [he, ← Option.some.inj hspec]
  · rintro ⟨i, hi, he⟩
    rw [get?, hi, Option.bind_some, he, Option.map_some]

lemma Sound.coherent {t : RuleTable} (h : t.Sound) : t.Coherent where
  toSound := h
  nodup := h.indexed.nodup
  inBounds := fun _ _ hi => h.indexed.lt_length hi
  position?_iff := fun key i => h.indexed (normalizeSpec key) i
  get?_iff := h.indexed.get?_eq_some_iff

/-! ## Looking after a step -/

/-- The rule of a spec, looked for entry by entry. -/
def ruleIn? (spec : String) : List RuleEntry → Option Rule
  | [] => none
  | e :: rest => if e.spec = spec then some e.rule else ruleIn? spec rest

lemma ruleIn?_of_nodup {e : RuleEntry} : ∀ {entries : List RuleEntry},
    (entries.map (·.spec)).Nodup → e ∈ entries → ruleIn? e.spec entries = some e.rule
  | e' :: rest, hnodup, he => by
      obtain ⟨hnot, hrest⟩ := List.nodup_cons.mp hnodup
      rw [ruleIn?]
      rcases List.mem_cons.mp he with rfl | he
      · exact if_pos rfl
      · have hne : e'.spec ≠ e.spec :=
          fun heq => hnot (List.mem_map.mpr ⟨e, he, heq.symm⟩)
        rw [if_neg hne]
        exact ruleIn?_of_nodup hrest he

lemma exists_of_ruleIn? {spec : String} {rule : Rule} : ∀ {entries : List RuleEntry},
    ruleIn? spec entries = some rule → ⟨spec, rule⟩ ∈ entries
  | e :: rest, h => by
      rw [ruleIn?] at h
      split_ifs at h with he
      · obtain ⟨rfl, rfl⟩ : e.spec = spec ∧ e.rule = rule := ⟨he, Option.some.inj h⟩
        exact List.mem_cons_self ..
      · exact List.mem_cons_of_mem _ (exists_of_ruleIn? h)

/-- Looking by the index finds what looking entry by entry finds. -/
lemma Indexed.get?_eq_ruleIn? {t : RuleTable} (h : t.Indexed) (key : String) :
    t.get? key = ruleIn? (normalizeSpec key) t.entries := by
  ext rule
  rw [h.get?_eq_some_iff]
  constructor
  · rintro ⟨i, -, hi⟩
    exact ruleIn?_of_nodup (e := ⟨normalizeSpec key, rule⟩) h.nodup (List.mem_of_getElem? hi)
  · intro hrule
    obtain ⟨i, hi⟩ := List.mem_iff_getElem?.mp (exists_of_ruleIn? hrule)
    refine ⟨i, (h _ i).mpr ?_, hi⟩
    rw [specAt?, hi, Option.map_some]

lemma ruleIn?_written (spec : String) (update : Option Rule → Rule) (k : String) :
    ∀ entries : List RuleEntry,
      ruleIn? k (written spec update entries)
        = if k = spec then some (update (ruleIn? spec entries)) else ruleIn? k entries
  | [] => by
      by_cases hk : k = spec
      · rw [if_pos hk]
        exact if_pos hk.symm
      · rw [if_neg hk]
        exact if_neg (Ne.symm hk)
  | e :: rest => by
      have ih := ruleIn?_written spec update k rest
      rw [written]
      by_cases he : e.spec = spec
      · rw [if_pos he]
        simp only [ruleIn?, he]
        by_cases hk : k = spec
        · rw [if_pos hk, if_pos hk.symm, if_pos trivial]
        · rw [if_neg hk, if_neg (Ne.symm hk), if_neg (Ne.symm hk)]
      · rw [if_neg he, ruleIn?, ih, ruleIn?, ruleIn?, if_neg he]
        by_cases hk : k = spec
        · subst hk
          simp [he]
        · simp [hk]

/-- **Looking after a step**: its spec has the rule that the step makes of the old one, and no other
spec is touched. -/
theorem get?_take {t : RuleTable} (h : t.Indexed) (s : Step) (key : String) :
    (t.take s).get? key
      = if normalizeSpec key = s.spec then some (s.update t.catalog (t.get? key))
        else t.get? key := by
  have hafter : (t.take s).Indexed := indexed_write h _ _
  rw [hafter.get?_eq_ruleIn?, take, entries_write h, ruleIn?_written, h.get?_eq_ruleIn?]
  by_cases hkey : normalizeSpec key = s.spec
  · rw [if_pos hkey, if_pos hkey, hkey]
  · rw [if_neg hkey, if_neg hkey]

end Placeholders.RuleTable
