import Placeholders.Proofs.RuleTable.Edit
import Placeholders.Resolver

/-!
# What an edit of a resolver does

A resolver takes in bindings by swapping its rules for others before it looks at the first one, and
by putting the old ones back when one is refused.  This file says what comes of it.

* `step?` — the step of the rules that a binding is; `bindingFault?` — what is wrong with it.
* `editFault?` — what is wrong with an edit; `after` — what it makes of a resolver otherwise.
* `run_forM_ingestOrRestore` — the loop over the bindings, with the rules that a fault brings back.
* **`run_perform`** — an edit is refused, and the resolver is as it was, or it does what it should.
* **`refused_iff`** — when an edit is refused, with which fault, and what it leaves.
-/

namespace Placeholders.Resolver

open RuleTable (Step chainFault?)

/-! ## Bindings -/

/-- The step that a binding is.  A chain under a key without the marker is none. -/
def step? (r : Resolver) (b : String × Binding) : Option Step :=
  if r.isDynamicKey b.1 then some (.add (r.stripMarker b.1) b.2.chain)
  else
    match b.2 with
    | .text text => some (.static b.1 text)
    | .filters _ => none

/-- What is wrong with a binding: it is no step, or its chain has a fault. -/
def bindingFault? (r : Resolver) (b : String × Binding) : Option Fault :=
  match r.step? b with
  | some s => s.fault? r.rules.catalog
  | none => some (.setup (.staticChain b.1 r.identifier))

/-- What is wrong with an edit.  Of several bindings the first one with a fault decides. -/
def editFault? (r : Resolver) : Edit → Option Fault
  | .setIdentifier identifier => if identifier = "" then some (.setup .emptyIdentifier) else none
  | .setRules bindings | .addRules bindings => bindings.findSome? r.bindingFault?
  | .setRule key chain | .addRule key chain =>
    chainFault? r.rules.catalog (r.stripMarker key) chain
  | .table edit => edit.fault? r.rules.catalog
  | .setTarget _ | .setStrict _ | .setStatic _ _ | .clear => none

/-- The resolver after an edit that is not refused. -/
def after (r : Resolver) : Edit → Resolver
  | .setIdentifier identifier => { r with identifier := identifier }
  | .setTarget target => { r with target := target }
  | .setStrict strict => { r with strict := strict }
  | .setRules bindings =>
    { r with rules := r.rules.clear.takeAll (bindings.filterMap r.step?) }
  | .addRules bindings => { r with rules := r.rules.takeAll (bindings.filterMap r.step?) }
  | .setRule key chain => { r with rules := r.rules.take (.set (r.stripMarker key) chain) }
  | .addRule key chain => { r with rules := r.rules.take (.add (r.stripMarker key) chain) }
  | .setStatic key text => { r with rules := r.rules.take (.static (r.stripMarker key) text) }
  | .clear => { r with rules := r.rules.clear }
  | .table edit => { r with rules := r.rules.after edit }

section Run

variable (r : Resolver)

/-- Guarded work on the rules is guarded work on the resolver. -/
lemma run_onRules {work : Work RuleTable Unit} {fault? : Option Fault} {after : RuleTable}
    (h : work.run r.rules = Work.guarded fault? r.rules after) :
    (onRules work).run r = Work.guarded fault? r { r with rules := after } := by
  rw [EStateM.run]
  unfold onRules
  rw [h]
  cases fault? <;> rfl

/-- A binding is refused before anything is changed, or it is a step of the rules. -/
lemma run_ingest (key : String) (value : Binding) :
    (ingest key value).run r
      = Work.guarded (r.bindingFault? (key, value)) r
          { r with rules := r.rules.takeAll (r.step? (key, value)).toList } := by
  have hrun : (ingest key value).run r
      = (if r.isDynamicKey key then onRules (RuleTable.addRule (r.stripMarker key) value.chain)
        else
          match value with
          | .text text => onRules (modify fun t => t.setStatic key text)
          | .filters _ => throw (.setup (.staticChain key r.identifier))).run r := rfl
  rw [hrun, bindingFault?, step?]
  by_cases hkey : r.isDynamicKey key = true
  · rw [if_pos hkey, if_pos hkey]
    exact run_onRules r (RuleTable.run_addRule ..)
  · rw [if_neg hkey, if_neg hkey]
    cases value <;> rfl

/-! ## Several bindings -/

lemma run_ingestOrRestore (previous : RuleTable) (key : String) (value : Binding) :
    (ingestOrRestore previous key value).run r
      = match (ingest key value).run r with
        | .ok _ after => .ok () after
        | .error fault after => .error fault { after with rules := previous } := by
  simp only [ingestOrRestore, tryCatch, tryCatchThe, MonadExceptOf.tryCatch, EStateM.tryCatch,
    EStateM.run]
  cases ingest key value r <;> rfl

/-- A binding is judged by the identifier and the catalogue; other rules make no difference. -/
lemma bindingFault?_rules {rules : RuleTable} (h : rules.catalog = r.rules.catalog) :
    bindingFault? { r with rules := rules } = r.bindingFault? := by
  funext b
  simp only [bindingFault?, h]
  rfl

end Run

/-- The loop over the bindings: it ends with the old rules, or it takes the steps of all bindings. -/
lemma run_forM_ingestOrRestore (previous : RuleTable) :
    ∀ (bindings : List (String × Binding)) (r : Resolver),
      (bindings.forM fun (key, value) => ingestOrRestore previous key value).run r
        = Work.guarded (bindings.findSome? r.bindingFault?) { r with rules := previous }
            { r with rules := r.rules.takeAll (bindings.filterMap r.step?) }
  | [], r => rfl
  | (key, value) :: bindings, r => by
      have hrun : (((key, value) :: bindings).forM fun (key, value) =>
            ingestOrRestore previous key value).run r
          = (ingestOrRestore previous key value >>= fun _ =>
              bindings.forM fun (key, value) => ingestOrRestore previous key value).run r := rfl
      rw [hrun, EStateM.run_bind, run_ingestOrRestore, run_ingest, List.findSome?_cons,
        List.filterMap_cons, bindingFault?]
      cases r.step? (key, value) with
      | none => rfl
      | some s =>
          dsimp only
          cases hs : s.fault? r.rules.catalog with
          | some fault => rfl
          | none =>
              -- the step has changed the rules, but not what the later bindings are judged by
              have ih := run_forM_ingestOrRestore previous bindings
                { r with rules := r.rules.take s }
              rw [bindingFault?_rules r (RuleTable.catalog_take ..)] at ih
              exact ih

lemma run_ingestAll (r : Resolver) {staged : RuleTable} (bindings : List (String × Binding))
    (hcatalog : staged.catalog = r.rules.catalog) :
    (ingestAll staged bindings).run r
      = Work.guarded (bindings.findSome? r.bindingFault?) r
          { r with rules := staged.takeAll (bindings.filterMap r.step?) } := by
  have hrun : (ingestAll staged bindings).run r
      = (bindings.forM fun (key, value) => ingestOrRestore r.rules key value).run
          { r with rules := staged } := rfl
  rw [hrun, run_forM_ingestOrRestore, bindingFault?_rules r hcatalog]
  rfl

/-! ## Edits -/

/-- **An edit is refused and leaves the resolver as it was, or it does what it should.** -/
theorem run_perform (r : Resolver) (edit : Edit) :
    (perform edit).run r = Work.guarded (r.editFault? edit) r (r.after edit) := by
  cases edit with
  | setIdentifier identifier =>
      have hrun : (perform (.setIdentifier identifier)).run r
          = if identifier.isEmpty then .error (.setup .emptyIdentifier) r
            else .ok () { r with identifier := identifier } := by
        rw [perform, setIdentifier]
        cases identifier.isEmpty <;> rfl
      rw [hrun, editFault?]
      by_cases hempty : identifier = ""
      · rw [if_pos hempty, if_pos (String.isEmpty_iff.mpr hempty)]
        rfl
      · rw [if_neg hempty, if_neg fun h => hempty (String.isEmpty_iff.mp h)]
        rfl
  | setRules bindings => exact run_ingestAll r bindings rfl
  | addRules bindings => exact run_ingestAll r bindings rfl
  | setRule key chain => exact run_onRules r (RuleTable.run_setRule ..)
  | addRule key chain => exact run_onRules r (RuleTable.run_addRule ..)
  | table edit => exact run_onRules r (RuleTable.run_perform ..)
  | setTarget _ | setStrict _ | setStatic _ _ | clear => rfl

/-! ## Refused edits -/

/-- One more pattern is refused if it does not compile, and then there is none more. -/
lemma run_addPattern (s : Substitution) (source : String) :
    (Substitution.addPattern source).run s
      = match compilePattern source with
        | .error fault => .error fault s
        | .ok pattern => .ok () { s with patterns := s.patterns ++ [pattern] } := by
  have hrun : (Substitution.addPattern source).run s
      = ((MonadExcept.ofExcept (compilePattern source) : Work Substitution _) >>= fun pattern =>
          modify fun s => { s with patterns := s.patterns ++ [pattern] }).run s := rfl
  rw [hrun]
  cases compilePattern source <;> rfl

/-- **A refused edit leaves everything as it was.**  An edit is refused just if one of its bindings has
a fault, it is refused with the fault of the first one, and no binding before that one has left a
trace.  So it is for tables and for resolvers, and for the patterns of a substitution. -/
theorem refused_iff :
    (∀ (t left : RuleTable) (edit : RuleTable.Edit) (fault : Fault),
        (RuleTable.perform edit).run t = .error fault left
          ↔ left = t ∧ edit.fault? t.catalog = some fault)
      ∧ (∀ (r left : Resolver) (edit : Edit) (fault : Fault),
          (perform edit).run r = .error fault left ↔ left = r ∧ r.editFault? edit = some fault)
      ∧ ∀ (s left : Substitution) (source : String) (fault : Fault),
          (Substitution.addPattern source).run s = .error fault left
            ↔ left = s ∧ compilePattern source = .error fault := by
  refine ⟨fun t left edit fault => ?_, fun r left edit fault => ?_, fun s left source fault => ?_⟩
  · rw [RuleTable.run_perform]
    exact Work.guarded_eq_error_iff
  · rw [run_perform]
    exact Work.guarded_eq_error_iff
  · rw [run_addPattern]
    cases compilePattern source with
    | ok pattern => exact iff_of_false nofun fun h => nomatch h.2
    | error found =>
        constructor
        · rintro ⟨⟩
          exact ⟨rfl, rfl⟩
        · rintro ⟨rfl, ⟨⟩⟩
          rfl

end Placeholders.Resolver
