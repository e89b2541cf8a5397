import Placeholders.Proofs.Resolver.Edit

/-!
# Bindings in bulk

A resolver takes in bindings in bulk or one by one.  In bulk it strips the marker of a key itself
and works on rules that it has swapped in; the single calls strip markers in a way of their own and
work on the rules where they are.  It comes to the same.

* `HasMarker` — a key is dynamic under an identifier, told by their first characters.
* `singleCall` — the call that a binding stands for, if there is one; `performSingle` makes it, and
  `oneByOne` makes several in a row.
* `run_performSingle` — a single call is a step of the bulk loop; `result_oneByOne` — so are they
  all.
* **`result_addRules_eq_oneByOne`** — bindings in bulk do what the single calls do, and are refused
  when these are; taking bindings in place of the rules is clearing the rules first.
-/

namespace Placeholders.Resolver

/-- The key begins with the first character of the identifier.  Under an empty identifier there is
no such key. -/
def HasMarker (identifier key : String) : Prop :=
  ∃ m ∈ identifier.toList.head?, m ∈ key.toList.head?

instance (identifier key : String) : Decidable (HasMarker identifier key) :=
  Option.decidableExistsMem identifier.toList.head?

/-- The single call for a binding.  Under a key with the marker a text is the name of a filter, and
under any other key a chain has no call. -/
def singleCall (identifier : String) : String × Binding → Except Fault Edit
  | (key, .filters chain) =>
    if HasMarker identifier key then .ok (.addRule key chain)
    else .error (.setup (.staticChain key identifier))
  | (key, .text text) =>
    if HasMarker identifier key then .ok (.addRule key [.named text]) else .ok (.setStatic key text)

/-- Makes the single call for a binding. -/
def performSingle (b : String × Binding) : Work Resolver Unit := do
  let edit ← MonadExcept.ofExcept (singleCall (← get).identifier b)
  perform edit

/-- Makes the single calls for several bindings, one after the other up to the first that is
refused. -/
def oneByOne (bindings : List (String × Binding)) : Work Resolver Unit :=
  bindings.forM performSingle

/-! ## Keys -/

lemma isDynamicKey_iff (r : Resolver) (key : String) :
    r.isDynamicKey key = true ↔ HasMarker r.identifier key := by
  rw [isDynamicKey, marker?, HasMarker]
  cases r.identifier.toList.head? with
  | none => simp
  | some m =>
      cases key.toList with
      | nil => simp
      | cons c rest => simp

/-- A key without the marker stays as it is. -/
lemma stripMarker_of_not_hasMarker {r : Resolver} {key : String}
    (h : ¬ HasMarker r.identifier key) : r.stripMarker key = key := by
  rw [stripMarker]
  cases key.toList with
  | nil => rfl
  | cons c rest => exact if_neg fun hdyn => h ((isDynamicKey_iff r key).mp hdyn)

/-! ## One call -/

lemma run_performSingle_of_ok {r : Resolver} {b : String × Binding} {edit : Edit}
    (h : singleCall r.identifier b = .ok edit) :
    (performSingle b).run r = (perform edit).run r := by
  change ((MonadExcept.ofExcept (singleCall r.identifier b) : Work Resolver _)
    >>= perform).run r = _
  rw [h]
  rfl

lemma run_performSingle_of_error {r : Resolver} {b : String × Binding} {fault : Fault}
    (h : singleCall r.identifier b = .error fault) :
    (performSingle b).run r = .error fault r := by
  change ((MonadExcept.ofExcept (singleCall r.identifier b) : Work Resolver _)
    >>= perform).run r = _
  rw [h]
  rfl

/-- **The single call for a binding does what the bulk loop does with it.** -/
theorem run_performSingle (r : Resolver) (b : String × Binding) :
    (performSingle b).run r
      = Work.guarded (r.bindingFault? b) r
          { r with rules := r.rules.takeAll (r.step? b).toList } := by
  obtain ⟨key, value⟩ := b
  rw [bindingFault?, step?]
  by_cases hkey : HasMarker r.identifier key
  · have hdyn := (isDynamicKey_iff r key).mpr hkey
    have hcall : singleCall r.identifier (key, value) = .ok (.addRule key value.chain) := by
      cases value <;> exact if_pos hkey
    rw [run_performSingle_of_ok hcall, run_perform, if_pos hdyn]
    rfl
  · have hdyn := mt (isDynamicKey_iff r key).mp hkey
    rw [if_neg hdyn]
    cases value with
    | filters chain => exact run_performSingle_of_error (if_neg hkey)
    | text text =>
        have hcall : singleCall r.identifier (key, .text text) = .ok (.setStatic key text) :=
          if_neg hkey
        rw [run_performSingle_of_ok hcall, run_perform, after, stripMarker_of_not_hasMarker hkey]
        rfl

/-! ## Several calls -/

/-- The calls in a row: the first binding with a fault ends them, else each of them is a step. -/
lemma result_oneByOne : ∀ (bindings : List (String × Binding)) (r : Resolver),
    (oneByOne bindings).result r
      = match bindings.findSome? r.bindingFault? with
        | some fault => .error fault
        | none => .ok { r with rules := r.rules.takeAll (bindings.filterMap r.step?) }
  | [], r => rfl
  | b :: bindings, r => by
      have hrun : (oneByOne (b :: bindings)).run r
          = (performSingle b >>= fun _ => oneByOne bindings).run r := rfl
      rw [Work.result, hrun, EStateM.run_bind, run_performSingle, List.findSome?_cons,
        List.filterMap_cons, bindingFault?]
      cases r.step? b with
      | none => rfl
      | some s =>
          dsimp only
          cases hs : s.fault? r.rules.catalog with
          | some fault => rfl
          | none =>
              -- the rules are others now, but the bindings that follow are judged as before
              have ih := result_oneByOne bindings { r with rules := r.rules.take s }
              rw [bindingFault?_rules r (RuleTable.catalog_take ..)] at ih
              exact ih

/-- What an edit comes to, if the state that a refusal leaves does not matter. -/
lemma result_perform (r : Resolver) (edit : Edit) :
    (perform edit).result r
      = match r.editFault? edit with
        | some fault => .error fault
        | none => .ok (r.after edit) := by
  rw [Work.result, run_perform]
  cases r.editFault? edit <;> rfl

/-- **Bindings in bulk do what the single calls do.**  They are refused with the fault of the first
call that is refused, and else the resolver is the same.  Bindings in place of the rules are refused
just if bindings beside them are; they do what clearing the rules and adding the bindings does, and
so it makes no difference which rules there were. -/
theorem result_addRules_eq_oneByOne (r : Resolver) (bindings : List (String × Binding)) :
    (perform (.addRules bindings)).result r = (oneByOne bindings).result r
      ∧ ((perform (.setRules bindings)).result r).isOk
          = ((perform (.addRules bindings)).result r).isOk
      ∧ (perform (.setRules bindings)).result r
          = (perform .clear >>= fun _ => perform (.addRules bindings)).result r
      ∧ ∀ (entries : List RuleEntry) (positions : List (String × Nat)),
          (perform (.setRules bindings)).result
              { r with rules := { r.rules with entries := entries, positions := positions } }
            = (perform (.setRules bindings)).result r := by
  refine ⟨?_, ?_, ?_, fun entries positions => ?_⟩
  · rw [result_perform, result_oneByOne]
    rfl
  · rw [result_perform, result_perform, editFault?, editFault?]
    cases bindings.findSome? r.bindingFault? <;> rfl
  · have hclear : (perform .clear >>= fun _ => perform (.addRules bindings)).result r
        = (perform (.addRules bindings)).result { r with rules := r.rules.clear } := rfl
    have hcatalog : r.rules.clear.catalog = r.rules.catalog := rfl
    rw [hclear, result_perform, result_perform, editFault?, editFault?,
      bindingFault?_rules r hcatalog]
    rfl
  · have hcatalog : { r.rules with entries := entries, positions := positions }.catalog
        = r.rules.catalog := rfl
    rw [result_perform, result_perform, editFault?, editFault?, bindingFault?_rules r hcatalog]
    rfl

end Placeholders.Resolver
