import Placeholders.Proofs.Resolver.Edit

/-!
# Building substitutions

A substitution is built one pattern and one template at a time.  Here is what it comes to when whole
lists of them are given.

* `mapM_eq_ok_filterMap` — a list of things that can all be made is made.
* `result_forM_addPattern` — adding patterns one after the other is compiling them all.
* **`ofLists_eq`** — the substitution of two lists: the patterns compiled, and the templates.
* `ofLists_of_compile` — there is one if every pattern compiles.
-/

namespace Placeholders

/-- If each of several things can be made, so can they all. -/
lemma mapM_eq_ok_filterMap {ε α β : Type} {f : α → Except ε β} {g : α → Option β} :
    ∀ {as : List α}, (∀ a ∈ as, ∃ b, f a = .ok b ∧ g a = some b) → as.mapM f = .ok (as.filterMap g)
  | [], _ => rfl
  | a :: as, h => by
      obtain ⟨⟨b, hf, hg⟩, hrest⟩ := List.forall_mem_cons.mp h
      rw [List.mapM_cons, mapM_eq_ok_filterMap hrest, hf, List.filterMap_cons, hg]
      rfl

namespace Substitution

/-- Adding patterns is compiling all of them; the first one that does not compile ends it. -/
lemma result_forM_addPattern : ∀ (sources : List String) (s : Substitution),
    (sources.forM addPattern).result s
      = (sources.mapM compilePattern).map fun ps => { s with patterns := s.patterns ++ ps }
  | [], s => by
      change Except.ok s = .ok { s with patterns := s.patterns ++ [] }
      rw [List.append_nil]
  | source :: sources, s => by
      have hrun : ((source :: sources).forM addPattern).run s
          = (addPattern source >>= fun _ => sources.forM addPattern).run s := rfl
      rw [Work.result, hrun, EStateM.run_bind, Resolver.run_addPattern, List.mapM_cons]
      cases compilePattern source with
      | error fault => rfl
      | ok p =>
          have ih := result_forM_addPattern sources { s with patterns := s.patterns ++ [p] }
          refine ih.trans ?_
          cases sources.mapM compilePattern with
          | error fault => rfl
          | ok ps =>
              change Except.ok { s with patterns := s.patterns ++ [p] ++ ps } = _
              rw [List.append_assoc]
              rfl

lemma foldl_addTemplate : ∀ (templates : List String) (s : Substitution),
    templates.foldl addTemplate s = { s with templates := s.templates ++ templates }
  | [], s => by rw [List.foldl_nil, List.append_nil]
  | template :: templates, s => by
      rw [List.foldl_cons, foldl_addTemplate templates, addTemplate, List.append_assoc]
      rfl

/-- **The substitution of two lists.** -/
theorem ofLists_eq (sources templates : List String) :
    ofLists sources templates
      = (sources.mapM compilePattern).map fun ps => ⟨ps, templates⟩ := by
  rw [ofLists, result_forM_addPattern]
  cases sources.mapM compilePattern with
  | error fault => rfl
  | ok ps => exact congrArg Except.ok (foldl_addTemplate templates _)

/-- There is one if every pattern compiles. -/
lemma ofLists_of_compile {sources : List String} (templates : List String)
    (h : ∀ source ∈ sources, (compilePattern source).isOk) :
    ofLists sources templates
      = .ok ⟨sources.filterMap fun source => (compilePattern source).toOption, templates⟩ := by
  have hall : ∀ source ∈ sources, ∃ p, compilePattern source = .ok p
      ∧ (compilePattern source).toOption = some p := by
    intro source hsource
    have hok := h source hsource
    cases hp : compilePattern source with
    | error fault => rw [hp] at hok; cases hok
    | ok p => exact ⟨p, rfl, rfl⟩
  rw [ofLists_eq, mapM_eq_ok_filterMap hall]
  rfl

end Substitution

end Placeholders
