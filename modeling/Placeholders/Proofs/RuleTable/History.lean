import Mathlib.Data.List.DropRight
import Placeholders.Proofs.RuleTable.Index

/-!
# Tables and their history

A table can be told from what was done to it.  Refused edits leave no trace, edits that reset wipe out
what came before, and what is left is a row of steps.

* `history` — the steps that count after several edits.
* `ruleOf` — the rule that the steps of one spec come to, in closed form.
* `told` — the entries that a history comes to: specs in the order in which they first occur.
  `told_append_singleton`: one more step is written into them.
* `ToldBy` — a table is told by a history; `toldBy_take` — a step goes on with it.
* **`toldBy_history`** — what several edits leave is told by the steps that count.
* `NoReset` — no reset is done; **`position?_runAll`** — then no spec moves.
* **`runAll_told`** — all of this for tables that start without rules.
-/

namespace Placeholders.RuleTable

/-! ## The steps that count -/

/-- The steps that count after several edits, if those that counted before are given.  An edit that is
done adds its steps, and if it resets it drops those before; a refused edit adds none. -/
def history (t : RuleTable) (past : List Step) : List Edit → List Step
  | [] => past
  | edit :: rest =>
    match (perform edit).run t with
    | .ok _ next => history next ((if edit.resets then [] else past) ++ edit.steps) rest
    | .error _ next => history next past rest

/-- No edit that resets is done. -/
def NoReset : RuleTable → List Edit → Prop
  | _, [] => True
  | t, edit :: rest =>
    (edit.resets → ∃ fault next, (perform edit).run t = .error fault next)
      ∧ NoReset ((perform edit).left t) rest

/-! ## The rule of a spec -/

/-- Does a step put another rule in the place of the one that its spec has? -/
def Step.overwrites : Step → Bool
  | .set _ _ | .static _ _ => true
  | .add _ _ => false

/-- The filters that the steps of one spec come to: those of the last step that overwrites, and those
of all steps after it. -/
def filtersOf (catalog : Catalog) (steps : List Step) : List Filter :=
  let base? := (steps.rdropWhile fun s => !s.overwrites).getLast?
  let added := steps.rtakeWhile fun s => !s.overwrites
  (base?.toList ++ added).flatMap (Step.filters catalog)

/-- The rule that the steps of one spec come to: the text, if the last step binds one, and else a
chain. -/
def ruleOf (catalog : Catalog) (steps : List Step) : Rule :=
  match steps.getLast? with
  | some (.static _ text) => .static text
  | _ => .chain (filtersOf catalog steps)

/-- The rule that some steps come to, if there are any. -/
def ruleOf? (catalog : Catalog) (steps : List Step) : Option Rule :=
  if steps = [] then none else some (ruleOf catalog steps)

section RuleOf

variable (catalog : Catalog) (steps : List Step)

lemma filtersOf_append_add (key : String) (chain : List FilterRef) :
    filtersOf catalog (steps ++ [.add key chain])
      = filtersOf catalog steps ++ (Step.add key chain).filters catalog := by
  have hadd : (!(Step.add key chain).overwrites) = true := rfl
  simp only [filtersOf, List.rdropWhile_concat, List.rtakeWhile_concat, if_pos hadd,
    ← List.append_assoc, List.flatMap_append, List.flatMap_singleton]

lemma filtersOf_append_of_overwrites {s : Step} (h : s.overwrites = true) :
    filtersOf catalog (steps ++ [s]) = s.filters catalog := by
  have hnot : ¬ (!s.overwrites) = true := by simp [h]
  simp only [filtersOf, List.rdropWhile_concat, List.rtakeWhile_concat, if_neg hnot,
    List.getLast?_concat, Option.toList_some, List.append_nil, List.flatMap_singleton]

/-- Adding to what the steps come to is adding to the rule in a table: a text gives way. -/
lemma extended_ruleOf? (filters : List Filter) :
    extended filters (ruleOf? catalog steps) = .chain (filtersOf catalog steps ++ filters) := by
  rcases steps.eq_nil_or_concat' with rfl | ⟨before, s, rfl⟩
  · rfl
  · rw [ruleOf?, if_neg (List.append_ne_nil_of_right_ne_nil _ (List.cons_ne_nil s [])), ruleOf,
      List.getLast?_concat]
    cases s with
    | set key chain => rfl
    | add key chain => rfl
    | static key text => rw [filtersOf_append_of_overwrites catalog before rfl]; rfl

/-- One more step does to the rule what it does to the rule in a table. -/
lemma ruleOf_append_singleton (s : Step) :
    ruleOf catalog (steps ++ [s]) = s.update catalog (ruleOf? catalog steps) := by
  rw [ruleOf, List.getLast?_concat]
  cases s with
  | set key chain => exact congrArg Rule.chain (filtersOf_append_of_overwrites catalog steps rfl)
  | add key chain =>
      rw [Step.update, extended_ruleOf?]
      exact congrArg Rule.chain (filtersOf_append_add catalog steps key chain)
  | static key text => rfl

end RuleOf

/-! ## The entries that a history comes to -/

/-- The steps of a history that bind a spec. -/
def stepsOf (spec : String) (past : List Step) : List Step := past.filter fun s => s.spec = spec

/-- The specs of a history, in the order in which they first occur. -/
def specsOf (past : List Step) : List String := (past.map Step.spec).eraseDups

/-- The entries that a history comes to. -/
def told (catalog : Catalog) (past : List Step) : List RuleEntry :=
  (specsOf past).map fun spec => ⟨spec, ruleOf catalog (stepsOf spec past)⟩

lemma map_spec_told (catalog : Catalog) (past : List Step) :
    (told catalog past).map (·.spec) = specsOf past := by
  simp [told, Function.comp_def]

lemma specsOf_append (past steps : List Step) : specsOf past <+: specsOf (past ++ steps) := by
  rw [specsOf, specsOf, List.map_append, List.eraseDups_append]
  exact List.prefix_append _ _

lemma specsOf_append_singleton (past : List Step) (s : Step) :
    specsOf (past ++ [s])
      = if s.spec ∈ specsOf past then specsOf past else specsOf past ++ [s.spec] := by
  rw [specsOf, List.map_append, List.eraseDups_append, ← specsOf, List.map_singleton,
    List.removeAll]
  by_cases hmem : s.spec ∈ specsOf past
  · have helem : (past.map Step.spec).elem s.spec = true :=
      List.elem_eq_true_of_mem (List.mem_eraseDups.mp hmem)
    rw [if_pos hmem, List.filter_singleton, helem]
    exact List.append_nil _
  · have helem : (past.map Step.spec).elem s.spec = false :=
      Bool.eq_false_iff.mpr fun h => hmem (List.mem_eraseDups.mpr (List.mem_of_elem_eq_true h))
    rw [if_neg hmem, List.filter_singleton, helem]
    rfl

lemma stepsOf_append_singleton (spec : String) (past : List Step) (s : Step) :
    stepsOf spec (past ++ [s])
      = if s.spec = spec then stepsOf spec past ++ [s] else stepsOf spec past := by
  rw [stepsOf, List.filter_append, List.filter_singleton, ← stepsOf]
  by_cases h : s.spec = spec <;> simp [h]

lemma stepsOf_eq_nil_iff {spec : String} {past : List Step} :
    stepsOf spec past = [] ↔ spec ∉ specsOf past := by
  simp [stepsOf, specsOf, List.mem_eraseDups]

/-- Writing into entries that are told spec by spec. -/
lemma written_map {spec : String} {update : Option Rule → Rule} {f g : String → Rule}
    (hother : ∀ k, k ≠ spec → g k = f k) (hspec : g spec = update (some (f spec))) :
    ∀ {specs : List String}, specs.Nodup → spec ∈ specs →
      written spec update (specs.map fun k => ⟨k, f k⟩) = specs.map fun k => ⟨k, g k⟩
  | k :: specs, hnodup, hmem => by
      obtain ⟨hk, hrest⟩ := List.nodup_cons.mp hnodup
      rw [List.map_cons, List.map_cons, written]
      by_cases heq : k = spec
      · subst heq
        have hsame : specs.map (fun k => (⟨k, f k⟩ : RuleEntry)) = specs.map fun k => ⟨k, g k⟩ :=
          List.map_congr_left fun k' hk' => by rw [hother k' fun h => hk (h ▸ hk')]
        rw [if_pos rfl, hspec, hsame]
      · rw [if_neg heq, hother k heq,
          written_map hother hspec hrest ((List.mem_cons.mp hmem).resolve_left (Ne.symm heq))]

/-- **One more step is written into the entries.** -/
theorem told_append_singleton (catalog : Catalog) (past : List Step) (s : Step)
    (hnodup : (specsOf past).Nodup) :
    told catalog (past ++ [s]) = written s.spec (s.update catalog) (told catalog past) := by
  have hother : ∀ k, k ≠ s.spec →
      ruleOf catalog (stepsOf k (past ++ [s])) = ruleOf catalog (stepsOf k past) := by
    intro k hk
    rw [stepsOf_append_singleton, if_neg (Ne.symm hk)]
  have hspec : ruleOf catalog (stepsOf s.spec (past ++ [s]))
      = s.update catalog (ruleOf? catalog (stepsOf s.spec past)) := by
    rw [stepsOf_append_singleton, if_pos rfl, ruleOf_append_singleton]
  rw [told, specsOf_append_singleton]
  by_cases hmem : s.spec ∈ specsOf past
  · rw [if_pos hmem]
    rw [ruleOf?, if_neg fun h => stepsOf_eq_nil_iff.mp h hmem] at hspec
    exact (written_map hother hspec hnodup hmem).symm
  · rw [if_neg hmem, List.map_append, List.map_singleton, hspec, ruleOf?,
      if_pos (stepsOf_eq_nil_iff.mpr hmem)]
    have hsame : (specsOf past).map (fun k => ⟨k, ruleOf catalog (stepsOf k (past ++ [s]))⟩)
        = told catalog past :=
      List.map_congr_left fun k hk => by rw [hother k fun h => hmem (h ▸ hk)]
    rw [hsame, written_of_forall_ne]
    intro e he heq
    refine hmem ?_
    rw [← heq, ← map_spec_told catalog]
    exact List.mem_map_of_mem he

/-! ## Tables -/

/-- A table that is told by a history. -/
structure ToldBy (t : RuleTable) (past : List Step) : Prop where
  indexed : t.Indexed
  entries : t.entries = told t.catalog past
  /-- every step of the history could be taken -/
  faultless : ∀ s ∈ past, s.fault? t.catalog = none

lemma toldBy_clear (t : RuleTable) : t.clear.ToldBy [] where
  indexed := indexed_clear t
  entries := rfl
  faultless := fun _ hs => absurd hs List.not_mem_nil

/-- The table after a step is told by the history with this step. -/
lemma toldBy_take {t : RuleTable} {past : List Step} (h : t.ToldBy past) {s : Step}
    (hs : s.fault? t.catalog = none) : (t.take s).ToldBy (past ++ [s]) where
  indexed := indexed_write h.indexed _ _
  entries := by
    have hnodup : (specsOf past).Nodup := by
      rw [← map_spec_told t.catalog, ← h.entries]
      exact h.indexed.nodup
    rw [catalog_take, told_append_singleton _ _ _ hnodup, take, entries_write h.indexed, h.entries]
  faultless := by
    intro s' hs'
    rw [catalog_take]
    rcases List.mem_append.mp hs' with hs' | hs'
    · exact h.faultless s' hs'
    · exact List.mem_singleton.mp hs' ▸ hs

lemma toldBy_takeAll : ∀ {steps : List Step} {t : RuleTable} {past : List Step}, t.ToldBy past →
    (∀ s ∈ steps, s.fault? t.catalog = none) → (t.takeAll steps).ToldBy (past ++ steps)
  | [], _, past, h, _ => by rwa [List.append_nil]
  | s :: steps, t, past, h, hsteps => by
      obtain ⟨hs, hrest⟩ := List.forall_mem_cons.mp hsteps
      have hlater : ∀ s' ∈ steps, s'.fault? (t.take s).catalog = none := by rwa [catalog_take]
      have ih := toldBy_takeAll (toldBy_take h hs) hlater
      rwa [List.append_assoc] at ih

/-- **A table is told by the steps that count.** -/
theorem toldBy_history : ∀ {edits : List Edit} {t : RuleTable} {past : List Step}, t.ToldBy past →
    (t.runAll edits).ToldBy (history t past edits)
  | [], _, _, h => h
  | edit :: edits, t, past, h => by
      have hrun : t.runAll (edit :: edits) = ((perform edit).left t).runAll edits := rfl
      rw [hrun, Work.left, history, run_perform]
      cases hfault : edit.fault? t.catalog with
      | some fault => exact toldBy_history h -- neither the table nor the history has changed
      | none =>
          have hsteps := List.findSome?_eq_none_iff.mp hfault
          refine toldBy_history ?_
          rw [after]
          cases edit.resets with
          | true => exact toldBy_takeAll (toldBy_clear t) hsteps
          | false => exact toldBy_takeAll h hsteps

/-! ## Positions -/

/-- As long as nothing resets, a history only grows. -/
lemma prefix_history : ∀ {edits : List Edit} {t : RuleTable} (past : List Step),
    NoReset t edits → past <+: history t past edits
  | [], _, past, _ => List.prefix_rfl
  | edit :: edits, t, past, h => by
      obtain ⟨hedit, hrest⟩ := h
      rw [Work.left] at hrest
      rw [history]
      cases hrun : (perform edit).run t with
      | error fault next =>
          rw [hrun] at hrest
          exact prefix_history past hrest
      | ok u next =>
          rw [hrun] at hrest
          have hstays : edit.resets = false := by
            rw [← Bool.not_eq_true]
            intro hresets
            obtain ⟨fault, next, hfault⟩ := hedit hresets
            rw [hrun] at hfault
            cases hfault
          rw [hstays]
          exact (List.prefix_append past edit.steps).trans (prefix_history _ hrest)

/-- The position of a spec is its place among the specs of the history. -/
lemma ToldBy.position?_eq_some_iff {t : RuleTable} {past : List Step} (h : t.ToldBy past)
    {key : String} {i : Nat} :
    t.position? key = some i ↔ (specsOf past)[i]? = some (normalizeSpec key) := by
  rw [position?, h.indexed, specAt?, h.entries, ← List.getElem?_map, map_spec_told]

/-- **As long as nothing resets, no spec moves.** -/
theorem position?_runAll {t : RuleTable} {past : List Step} (h : t.ToldBy past) {more : List Edit}
    (hmore : NoReset t more) {key : String} {i : Nat} (hi : t.position? key = some i) :
    (t.runAll more).position? key = some i := by
  obtain ⟨new, hnew⟩ := prefix_history past hmore
  obtain ⟨later, hlater⟩ := specsOf_append past new
  have hat := h.position?_eq_some_iff.mp hi
  rw [(toldBy_history h).position?_eq_some_iff, ← hnew, ← hlater,
    List.getElem?_append_left (List.getElem?_eq_some_iff.mp hat).1]
  exact hat

/-! ## Tables that start without rules -/

/-- Every element of a chain of a step that could be taken contributes a filter. -/
lemma isSome_filter?_of_fault? {catalog : Catalog} {s : Step} (h : s.fault? catalog = none) :
    ∀ ref ∈ s.chain, (ref.filter? catalog).isSome := by
  intro ref href
  have hknown : ref.fault? catalog = none := by
    cases s with
    | set key chain => exact fault?_of_mem h ref href
    | add key chain => exact fault?_of_mem h ref href
    | static key text => exact absurd href List.not_mem_nil
  obtain ⟨filter, hfilter, -⟩ := FilterRef.resolve_of_known hknown
  exact Option.isSome_of_eq_some hfilter

/-- **A table is determined by its history.**  The specs stand in the order in which the steps that
count first bind them, the rule of each is what its steps come to, and every element of their chains
contributes a filter to it.  No spec moves until there is a reset. -/
theorem runAll_told (catalog : Catalog) (edits : List Edit) :
    let start : RuleTable := { catalog := catalog }
    let t := start.runAll edits
    let past := history start [] edits
    t.entries.map (·.spec) = (past.map Step.spec).eraseDups
      ∧ (∀ e ∈ t.entries, e.rule = ruleOf catalog (past.filter fun s => s.spec = e.spec))
      ∧ (∀ s ∈ past, ∀ ref ∈ s.chain, (ref.filter? catalog).isSome)
      ∧ ∀ more, NoReset t more → ∀ key i, t.position? key = some i →
          (start.runAll (edits ++ more)).position? key = some i := by
  intro start t past
  have htold : t.ToldBy past := toldBy_history (toldBy_clear start)
  have hcatalog : t.catalog = catalog := catalog_runAll edits start
  have hentries := htold.entries
  rw [hcatalog] at hentries
  refine ⟨?_, ?_, ?_, ?_⟩
  · rw [hentries]
    exact map_spec_told catalog past
  · intro e he
    rw [hentries] at he
    obtain ⟨spec, -, rfl⟩ := List.mem_map.mp he
    rfl
  · intro s hs
    exact isSome_filter?_of_fault? (hcatalog ▸ htold.faultless s hs)
  · intro more hmore key i hi
    have hrun : start.runAll (edits ++ more) = t.runAll more := List.foldl_append
    rw [hrun]
    exact position?_runAll htold hmore hi

end Placeholders.RuleTable
