import Placeholders.Proofs.Resolver.Edit
import Placeholders.Proofs.RuleTable.Index

/-!
# Sessions

A resolver lives through many edits.  Some are refused, the identifier may change between them, and
the rules can also be edited behind the back of the resolver.

* `runAll` — the resolver after several edits, each done or refused.
* `sound_rules_left` — the step: the rules that an edit leaves are sound.
* **`coherent_runAll`** — after any edits of a table or of a resolver that start without rules, the
  index, the entries and the ways to look into them agree.
-/

namespace Placeholders.Resolver

/-- The resolver after several edits, each done or refused. -/
def runAll (r : Resolver) (edits : List Edit) : Resolver :=
  edits.foldl (fun r edit => (perform edit).left r) r

/-- Bindings without a fault are steps without a fault. -/
lemma fault?_of_mem_steps {r : Resolver} {bindings : List (String × Binding)}
    (h : bindings.findSome? r.bindingFault? = none) :
    ∀ s ∈ bindings.filterMap r.step?, s.fault? r.rules.catalog = none := by
  intro s hs
  obtain ⟨b, hb, hstep⟩ := List.mem_filterMap.mp hs
  have hfault := List.findSome?_eq_none_iff.mp h b hb
  rwa [bindingFault?, hstep] at hfault

/-- The rules of a resolver stay sound if the edit is not refused. -/
lemma sound_rules_after {r : Resolver} (h : r.rules.Sound) {edit : Edit}
    (hok : r.editFault? edit = none) : (r.after edit).rules.Sound := by
  cases edit with
  | setIdentifier _ | setTarget _ | setStrict _ => exact h
  | setRules bindings =>
      exact RuleTable.sound_takeAll (RuleTable.sound_clear r.rules) (fault?_of_mem_steps hok)
  | addRules bindings => exact RuleTable.sound_takeAll h (fault?_of_mem_steps hok)
  | setRule key chain => exact RuleTable.sound_take (s := .set (r.stripMarker key) chain) h hok
  | addRule key chain => exact RuleTable.sound_take (s := .add (r.stripMarker key) chain) h hok
  | setStatic key text => exact RuleTable.sound_take (s := .static (r.stripMarker key) text) h rfl
  | clear => exact RuleTable.sound_clear r.rules
  | table edit => exact RuleTable.sound_after h hok

/-- **The rules that an edit leaves are sound, be it done or refused.** -/
theorem sound_rules_left {r : Resolver} (h : r.rules.Sound) (edit : Edit) :
    ((perform edit).left r).rules.Sound := by
  rw [Work.left, run_perform]
  cases hfault : r.editFault? edit with
  | some fault => exact h
  | none => exact sound_rules_after h hfault

/-- So are those that several edits leave. -/
lemma sound_rules_runAll : ∀ (edits : List Edit) {r : Resolver}, r.rules.Sound →
    (r.runAll edits).rules.Sound
  | [], _, h => h
  | edit :: edits, _, h => sound_rules_runAll edits (sound_rules_left h edit)

/-- **The parts of a table agree after any edits.**  They may be made on the table itself or through a
resolver, under any identifier; some may be refused; and the catalogue may know any filters. -/
theorem coherent_runAll (catalog : Catalog) :
    (∀ edits : List RuleTable.Edit,
        (RuleTable.runAll { catalog := catalog } edits).Coherent)
      ∧ ∀ (target identifier : String) (strict : Bool) (edits : List Edit),
          (runAll ⟨target, identifier, strict, { catalog := catalog }⟩ edits).rules.Coherent := by
  have hstart : ({ catalog := catalog } : RuleTable).Sound :=
    RuleTable.sound_clear { catalog := catalog }
  constructor
  · intro edits
    exact (RuleTable.sound_runAll edits hstart).coherent
  · intro target identifier strict edits
    exact (sound_rules_runAll edits (r := ⟨target, identifier, strict, { catalog := catalog }⟩)
      hstart).coherent

end Placeholders.Resolver
