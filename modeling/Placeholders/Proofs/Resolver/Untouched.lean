import Placeholders.Proofs.Pattern.Front
import Placeholders.Proofs.Resolver.Policy

/-!
# Targets without a placeholder

A placeholder begins with the identifier, so a target in which the identifier does not occur should
come out as it is.  It does if the specs that are replaced stand alone (`Pattern.StandsAlone`),
whatever else they are: each insertion leaves the text alone, and so does the whole run of them.

A spec that does not stand alone takes hold of the identifier in front of it.  It then matches text
that is no placeholder, and the target is rewritten: `not_untouched`.

* `insertion_of_not_isInfix` — one insertion.
* **`resolve_of_not_isInfix`** — the run.
-/

namespace Placeholders.Resolver

open Pattern

variable {identifier : String}

/-- A spec that stands alone has no match in a text without the identifier. -/
lemma insertion_of_not_isInfix {spec current : String} (new : String)
    (hspec : IsPattern identifier spec → StandsAlone spec.toList)
    (h : ¬ identifier.toList <:+: current.toList) :
    insertion identifier current (spec, new) = current := by
  by_cases hpattern : IsPattern identifier spec
  · obtain ⟨p, hp⟩ := hpattern
    have hsource : (placeholder identifier spec).toList
        = quote identifier.toList ++ spec.toList := by
      rw [placeholder, String.toList_append, String.toList_ofList]
    rw [insertion, hp]
    exact replaceAll_of_not_isInfix hsource (hspec ⟨p, hp⟩) hp (fun _ => new.toList) h
  · exact insertion_of_not_isPattern hpattern current new

/-- Nothing that is inserted could bring in the identifier, since nothing is inserted. -/
lemma foldl_insertion_of_not_isInfix {current : String}
    (h : ¬ identifier.toList <:+: current.toList) :
    ∀ steps : List (String × String),
      (∀ step ∈ steps, IsPattern identifier step.1 → StandsAlone step.1.toList) →
      steps.foldl (insertion identifier) current = current
  | [], _ => rfl
  | (spec, new) :: steps, hsteps => by
      obtain ⟨hspec, hsteps⟩ := List.forall_mem_cons.mp hsteps
      rw [List.foldl_cons, insertion_of_not_isInfix new hspec h]
      exact foldl_insertion_of_not_isInfix h steps hsteps

/-- **A target in which the identifier does not occur is not rewritten**, whatever the rules insert,
if those queued specs stand alone that make patterns. -/
theorem resolve_of_not_isInfix (r : Resolver) (source : Json) (hid : r.identifier ≠ "")
    (hperm : r.strict = false) (hord : source.Ordered) (hstr : source.HoldsStrings)
    (hcalls : ∀ entry ∈ r.rules.entries, ∃ text, Calls source entry text)
    (hspecs : ∀ entry ∈ r.rules.entries, IsQueued source entry →
      IsPattern r.identifier entry.spec → StandsAlone entry.spec.toList)
    (htarget : ¬ r.identifier.toList <:+: r.target.toList) :
    r.resolve source = .ok r.target := by
  choose! text hcalls using hcalls
  rw [resolve_permissive hid hperm hord hstr hcalls]
  have hsteps : ∀ step ∈ queued text r.rules.entries,
      IsPattern r.identifier step.1 → StandsAlone step.1.toList :=
    forall_mem_queued (P := fun spec => IsPattern r.identifier spec → StandsAlone spec.toList)
      fun entry hentry new hnew => hspecs entry hentry ⟨new, hnew ▸ hcalls entry hentry⟩
  exact congrArg Except.ok (foldl_insertion_of_not_isInfix htarget _ hsteps)

/-- Specs that are patterns: a choice in a group, a repetition with a chain, and free layout.  The
last one makes no pattern. -/
def layout : Resolver where
  target := "a::b : x"
  identifier := ":::"
  strict := false
  rules :=
    { catalog := {}
      entries :=
        [⟨"(?:a|b)", .static "one"⟩, ⟨"[ab]*", .chain [⟨"seven", fun _ => .ok (.number (.int 7))⟩]⟩,
         ⟨"(?x) x # x", .static "three"⟩, ⟨"(x", .static "four"⟩]
      positions := [("(?:a|b)", 0), ("(?x) x # x", 2), ("(x", 3), ("[ab]*", 1)] }

/-- A source for these rules, with the identifier in it. -/
def layoutSource : Json := .object [("(?:a|b)", .string ":::a"), ("[ab]*", .string ":::")]

theorem resolve_layout :
    layout.identifier ≠ "" ∧ layout.strict = false ∧ layoutSource.Ordered
      ∧ layoutSource.HoldsStrings
      ∧ (∀ entry ∈ layout.rules.entries, ∃ text, Calls layoutSource entry text)
      ∧ (∀ entry ∈ layout.rules.entries, IsQueued layoutSource entry →
          IsPattern layout.identifier entry.spec → StandsAlone entry.spec.toList)
      ∧ ¬ layout.identifier.toList <:+: layout.target.toList
      ∧ layout.resolve layoutSource = .ok "a::b : x" := by
  have hid : layout.identifier ≠ "" := by decide
  have hord : layoutSource.Ordered := by decide
  have hstr : layoutSource.HoldsStrings := by decide
  have hreads : Source.Reads ⟨[("[ab]*", ":::"), ("(?:a|b)", ":::a")]⟩ layoutSource :=
    Source.reads_of_ofJson hord rfl
  have hcalls : ∀ entry ∈ layout.rules.entries, ∃ text, Calls layoutSource entry text :=
    fun entry hentry => exists_calls_of_isOk hreads (by revert entry; decide +kernel)
  have hspecs : ∀ entry ∈ layout.rules.entries, IsQueued layoutSource entry →
      IsPattern layout.identifier entry.spec → StandsAlone entry.spec.toList := by
    have hread : ∀ entry ∈ layout.rules.entries,
        (compile (placeholder layout.identifier entry.spec)).isOk →
          StandsAlone entry.spec.toList := by decide +kernel
    rintro entry hentry - ⟨p, hp⟩
    exact hread entry hentry (hp ▸ rfl)
  have htarget : ¬ layout.identifier.toList <:+: layout.target.toList := by decide
  exact ⟨hid, rfl, hord, hstr, hcalls, hspecs, htarget,
    resolve_of_not_isInfix layout layoutSource hid rfl hord hstr hcalls hspecs htarget⟩

/-- A spec that is a choice. -/
def choice : Resolver where
  target := "b"
  strict := false
  rules := { catalog := {}, entries := [⟨"a|b", .static "X"⟩], positions := [("a|b", 0)] }

/-- **A spec that is a choice is found without the identifier.**  The identifier goes to the first
branch, and the second one is replaced wherever it stands. -/
theorem not_untouched :
    choice.resolve (.object []) = .ok "X"
      ∧ ¬ ∀ (r : Resolver) (source : Json), r.identifier ≠ "" → r.strict = false → source.Ordered →
        source.HoldsStrings → (∀ entry ∈ r.rules.entries, ∃ text, Calls source entry text) →
        ¬ r.identifier.toList <:+: r.target.toList → r.resolve source = .ok r.target := by
  have hresolve : choice.resolve (.object []) = .ok "X" := by decide +kernel
  have hreads : Source.Reads ⟨[]⟩ (.object []) := Source.reads_of_ofJson (by decide) rfl
  have hcalls : ∀ entry ∈ choice.rules.entries, ∃ text, Calls (.object []) entry text :=
    fun entry hentry => exists_calls_of_isOk hreads (by revert entry; decide +kernel)
  refine ⟨hresolve, fun h => ?_⟩
  have huntouched :=
    h choice (.object []) (by decide) rfl (by decide) (by decide) hcalls (by decide)
  rw [hresolve] at huntouched
  exact absurd huntouched (by decide)

end Placeholders.Resolver
