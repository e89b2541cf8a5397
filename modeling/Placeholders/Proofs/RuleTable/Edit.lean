import Mathlib.Tactic.Common
import Placeholders.RuleTable

/-!
# What an edit of a table does

An edit resolves chains, works on copies and passes through tables with an empty chain.  None of that
is left to see in the end: an edit is refused before anything is changed, or it is a row of steps, and
each of them writes the rule of one spec.

* `Work.guarded` — what comes of work that looks for a fault before it changes anything.
* `chainFault?` — what is wrong with a chain for a key, read off the chain and the catalogue.
* `Step` — one spec bound; `Step.update` — what its rule becomes.  `take`, `takeAll` — what a table
  becomes by a step and by several.
* `Edit.steps`, `Edit.resets` — the steps of an edit, and whether they start from nothing.
* **`run_perform`** — the one statement about edits that the others rest on: an edit is refused with
  the fault of the first step that has one, and then the table is as it was; else it takes the steps.
-/

namespace Placeholders

/-! ## Guarded work -/

namespace Work

variable {σ : Type}

/-- What comes of work that looks for a fault before it changes anything. -/
def guarded (fault? : Option Fault) (before after : σ) : EStateM.Result Fault σ Unit :=
  match fault? with
  | some fault => .error fault before
  | none => .ok () after

/-- It is refused just if there is a fault, and then nothing has changed. -/
lemma guarded_eq_error_iff {fault? : Option Fault} {before after left : σ} {fault : Fault} :
    guarded fault? before after = .error fault left ↔ left = before ∧ fault? = some fault := by
  cases fault? with
  | none => exact iff_of_false nofun fun h => nomatch h.2
  | some found =>
      constructor
      · rintro ⟨⟩
        exact ⟨rfl, rfl⟩
      · rintro ⟨rfl, ⟨⟩⟩
        rfl

/-- It is done just if there is none. -/
lemma guarded_eq_ok_iff {fault? : Option Fault} {before after left : σ} :
    guarded fault? before after = .ok () left ↔ fault? = none ∧ after = left := by
  cases fault? with
  | none =>
      constructor
      · rintro ⟨⟩
        exact ⟨rfl, rfl⟩
      · rintro ⟨-, rfl⟩
        rfl
  | some fault => exact iff_of_false nofun fun h => nomatch h.1

end Work

/-! ## Elements of chains -/

namespace FilterRef

/-- The filter that an element contributes: for a name the one that the catalogue makes, with its
defaults filled in, and else the filter itself. -/
def filter? (catalog : Catalog) : FilterRef → Option Filter
  | .named name => (catalog.makers.lookup name).map (·.settled)
  | .live filter => some filter

/-- The fault of an element: a name that the catalogue does not know. -/
def fault? (catalog : Catalog) : FilterRef → Option Fault
  | .named name => if catalog.contains name then none else some (.unknownFilter name)
  | .live _ => none

variable {catalog : Catalog}

lemma resolve_of_fault : ∀ {ref : FilterRef} {fault : Fault},
    ref.fault? catalog = some fault → ref.resolve catalog = .error fault
  | .named name, fault, h => by
      rw [fault?, Catalog.contains] at h
      cases hlookup : catalog.makers.lookup name with
      | some maker => simp [hlookup] at h
      | none =>
          obtain rfl : Fault.unknownFilter name = fault := by simpa [hlookup] using h
          simp only [resolve, Catalog.resolve, hlookup]

lemma resolve_of_known : ∀ {ref : FilterRef}, ref.fault? catalog = none →
    ∃ filter, ref.filter? catalog = some filter ∧ ref.resolve catalog = .ok filter
  | .live filter, _ => ⟨filter, rfl, rfl⟩
  | .named name, h => by
      rw [fault?, Catalog.contains] at h
      cases hlookup : catalog.makers.lookup name with
      | none => simp [hlookup] at h
      | some maker =>
          exact ⟨maker.settled, by rw [filter?, hlookup]; rfl,
            by simp only [resolve, Catalog.resolve, hlookup]⟩

/-- The first element with a fault decides; without one every element contributes its filter. -/
lemma mapM_resolve (catalog : Catalog) : ∀ chain : List FilterRef,
    chain.mapM (resolve catalog)
      = match chain.findSome? (fault? catalog) with
        | some fault => .error fault
        | none => .ok (chain.filterMap (filter? catalog))
  | [] => rfl
  | ref :: chain => by
      rw [List.mapM_cons, mapM_resolve catalog chain, List.findSome?_cons]
      cases href : ref.fault? catalog with
      | some fault => rw [resolve_of_fault href]; rfl
      | none =>
          obtain ⟨filter, hfilter, hresolve⟩ := resolve_of_known href
          rw [hresolve, List.filterMap_cons, hfilter]
          cases chain.findSome? (fault? catalog) <;> rfl

end FilterRef

namespace RuleTable

/-- The fault of a chain for a key: it has no filter, or else the first name in it that the catalogue
does not know. -/
def chainFault? (catalog : Catalog) (key : String) : List FilterRef → Option Fault
  | [] => some (.setup (.emptyChain (normalizeSpec key)))
  | chain => chain.findSome? (FilterRef.fault? catalog)

lemma fault?_of_mem {catalog : Catalog} {key : String} : ∀ {chain : List FilterRef},
    chainFault? catalog key chain = none → ∀ ref ∈ chain, ref.fault? catalog = none
  | _ :: _, h => List.findSome?_eq_none_iff.mp h

/-- A chain without a fault is resolved to the filters that its elements contribute. -/
lemma mapM_resolve_of_chainFault? {catalog : Catalog} {key : String} : ∀ {chain : List FilterRef},
    chainFault? catalog key chain = none →
      chain.mapM (FilterRef.resolve catalog)
        = .ok (chain.filterMap (FilterRef.filter? catalog))
  | ref :: chain, h => by
      have hnone : (ref :: chain).findSome? (FilterRef.fault? catalog) = none := h
      rw [FilterRef.mapM_resolve, hnone]

lemma resolveChain_eq (t : RuleTable) (key : String) (chain : List FilterRef) :
    t.resolveChain key chain
      = match chainFault? t.catalog key chain with
        | some fault => .error fault
        | none => .ok (chain.filterMap (FilterRef.filter? t.catalog)) := by
  cases chain with
  | nil => rfl
  | cons ref chain => exact FilterRef.mapM_resolve t.catalog (ref :: chain)

/-! ## Steps -/

/-- A step binds one spec. -/
inductive Step where
  | set (key : String) (chain : List FilterRef)
  | add (key : String) (chain : List FilterRef)
  | static (key text : String)

namespace Step

/-- The spec that is bound. -/
def spec : Step → String
  | .set key _ | .add key _ | .static key _ => normalizeSpec key

/-- The chain of a step.  A step that binds a fixed text has none. -/
def chain : Step → List FilterRef
  | .set _ chain | .add _ chain => chain
  | .static _ _ => []

/-- The filters of its chain. -/
def filters (catalog : Catalog) (s : Step) : List Filter :=
  s.chain.filterMap (FilterRef.filter? catalog)

/-- The rule that the spec gets, given the one it has. -/
def update (catalog : Catalog) : Step → Option Rule → Rule
  | s@(.set _ _), _ => .chain (s.filters catalog)
  | s@(.add _ _), before => extended (s.filters catalog) before
  | .static _ text, _ => .static text

/-- What is wrong with a step. -/
def fault? (catalog : Catalog) : Step → Option Fault
  | .set key chain | .add key chain => chainFault? catalog key chain
  | .static _ _ => none

end Step

/-- The table after a step. -/
def take (t : RuleTable) (s : Step) : RuleTable := t.write s.spec (s.update t.catalog)

/-- The table after several steps. -/
def takeAll (t : RuleTable) (steps : List Step) : RuleTable := steps.foldl take t

@[simp] lemma catalog_write (t : RuleTable) (spec : String) (update : Option Rule → Rule) :
    (t.write spec update).catalog = t.catalog := by
  rw [write]
  cases t.positions.lookup spec <;> rfl

@[simp] lemma catalog_take (t : RuleTable) (s : Step) : (t.take s).catalog = t.catalog :=
  catalog_write ..

@[simp] lemma catalog_takeAll : ∀ (steps : List Step) (t : RuleTable),
    (t.takeAll steps).catalog = t.catalog
  | [], _ => rfl
  | s :: steps, t => (catalog_takeAll steps (t.take s)).trans (catalog_take t s)

/-- The steps of an edit. -/
def Edit.steps : Edit → List Step
  | .setRules bindings | .addRules bindings => bindings.map fun b => .add b.1 b.2
  | .setRule key chain => [.set key chain]
  | .addRule key chain => [.add key chain]
  | .setStatic key text => [.static key text]
  | .clear => []

/-- Does the edit start from a table without rules? -/
def Edit.resets : Edit → Bool
  | .setRules _ | .clear => true
  | _ => false

/-- What is wrong with an edit: the fault of the first of its steps that has one. -/
def Edit.fault? (catalog : Catalog) (edit : Edit) : Option Fault :=
  edit.steps.findSome? (Step.fault? catalog)

/-- The table after an edit that is not refused. -/
def after (t : RuleTable) (edit : Edit) : RuleTable :=
  (if edit.resets then t.clear else t).takeAll edit.steps

/-! ## Single bindings -/

section Run

variable (t : RuleTable) (key : String) (chain : List FilterRef)

lemma run_addRule :
    (addRule key chain).run t
      = Work.guarded ((Step.add key chain).fault? t.catalog) t (t.take (.add key chain)) := by
  have hrun : (addRule key chain).run t
      = ((MonadExcept.ofExcept (t.resolveChain key chain) : Work RuleTable _) >>= fun filters =>
          modify fun t => t.write (normalizeSpec key) (extended filters)).run t := rfl
  rw [hrun, resolveChain_eq, Step.fault?]
  cases chainFault? t.catalog key chain <;> rfl

lemma modifyAt_modifyAt (i : Nat) (f g : Rule → Rule) :
    (t.modifyAt i f).modifyAt i g = t.modifyAt i fun rule => g (f rule) := by
  simp only [modifyAt, List.modify_modify_eq, Function.comp_def]

/-- Emptying the rule of a spec and then extending it is replacing it. -/
lemma write_blank (spec : String) (filters : List Filter) :
    (t.blank spec).write spec (extended filters) = t.write spec fun _ => .chain filters := by
  cases hspec : t.positions.lookup spec with
  | none => simp only [blank, write, hspec, extended]
  | some i =>
      have hblank : t.blank spec = t.modifyAt i fun _ => .chain [] := by rw [blank, hspec]
      have hsame : (t.modifyAt i fun _ => .chain []).positions = t.positions := rfl
      rw [hblank, write, hsame, hspec, write, hspec]
      exact modifyAt_modifyAt t i _ _

lemma run_setRule :
    (setRule key chain).run t
      = Work.guarded ((Step.set key chain).fault? t.catalog) t (t.take (.set key chain)) := by
  have hrun : (setRule key chain).run t
      = ((MonadExcept.ofExcept (t.resolveChain key chain) : Work RuleTable _) >>= fun filters =>
          modify fun t =>
            (t.blank (normalizeSpec key)).write (normalizeSpec key) (extended filters)).run t := by
    cases hchain : t.resolveChain key chain <;>
      simp [setRule, hchain, MonadExcept.ofExcept]
  rw [hrun, resolveChain_eq, Step.fault?]
  cases chainFault? t.catalog key chain with
  | some fault => rfl
  | none => exact congrArg (EStateM.Result.ok ()) (write_blank t _ _)

end Run

/-! ## Several bindings -/

/-- Extending several chains is refused with the fault of the first binding that has one.  The tables
in between are only tables of a copy, so what is left after a fault does not count. -/
lemma result_extend : ∀ (bindings : List (String × List FilterRef)) (t : RuleTable),
    (extend bindings).result t
      = match (bindings.map fun b => Step.add b.1 b.2).findSome? (Step.fault? t.catalog) with
        | some fault => .error fault
        | none => .ok (t.takeAll (bindings.map fun b => .add b.1 b.2))
  | [], t => rfl
  | (key, chain) :: bindings, t => by
      have hrun : (extend ((key, chain) :: bindings)).run t
          = (addRule key chain >>= fun _ => extend bindings).run t := rfl
      rw [List.map_cons, List.findSome?_cons, Work.result, hrun, EStateM.run_bind, run_addRule]
      cases (Step.add key chain).fault? t.catalog with
      | some fault => rfl
      | none =>
          have ih := result_extend bindings (t.take (.add key chain))
          rw [catalog_take] at ih
          exact ih

/-- Done on a copy that then takes the place of the table, it leaves the table alone when it is
refused. -/
lemma run_onCopy_extend (t staged : RuleTable) (bindings : List (String × List FilterRef)) :
    (Work.onCopy staged (extend bindings) >>= set : Work RuleTable Unit).run t
      = Work.guarded
          ((bindings.map fun b => Step.add b.1 b.2).findSome? (Step.fault? staged.catalog)) t
          (staged.takeAll (bindings.map fun b => .add b.1 b.2)) := by
  rw [Work.onCopy, result_extend]
  cases (bindings.map fun b => Step.add b.1 b.2).findSome? (Step.fault? staged.catalog) <;> rfl

/-! ## Edits -/

/-- **An edit is refused before anything is changed, or it takes its steps.** -/
theorem run_perform (t : RuleTable) (edit : Edit) :
    (perform edit).run t = Work.guarded (edit.fault? t.catalog) t (t.after edit) := by
  have hone (s : Step) : [s].findSome? (Step.fault? t.catalog) = s.fault? t.catalog := by
    rw [List.findSome?_cons]
    cases s.fault? t.catalog <;> rfl
  cases edit with
  | setRules bindings => exact run_onCopy_extend t t.clear bindings
  | addRules bindings => exact run_onCopy_extend t t bindings
  | setRule key chain =>
      rw [Edit.fault?, Edit.steps, hone]
      exact run_setRule t key chain
  | addRule key chain =>
      rw [Edit.fault?, Edit.steps, hone]
      exact run_addRule t key chain
  | setStatic key text => rfl
  | clear => rfl

/-- The table after several edits, each done or refused. -/
def runAll (t : RuleTable) (edits : List Edit) : RuleTable :=
  edits.foldl (fun t edit => (perform edit).left t) t

/-- Every table that an edit leaves has the catalogue of the one before. -/
lemma catalog_left (t : RuleTable) (edit : Edit) : ((perform edit).left t).catalog = t.catalog := by
  rw [Work.left, run_perform]
  cases edit.fault? t.catalog with
  | some fault => rfl
  | none =>
      change (t.after edit).catalog = t.catalog
      rw [after, catalog_takeAll]
      cases edit.resets <;> rfl

lemma catalog_runAll : ∀ (edits : List Edit) (t : RuleTable), (t.runAll edits).catalog = t.catalog
  | [], _ => rfl
  | edit :: edits, t => (catalog_runAll edits ((perform edit).left t)).trans (catalog_left t edit)

end RuleTable

end Placeholders
