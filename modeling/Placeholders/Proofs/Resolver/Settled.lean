import Placeholders.Proofs.Resolver.FirstLeftover
import Placeholders.Proofs.Resolver.Simultaneous

/-!
# Resolving what is resolved

Insertions alone are not idempotent: a text that is put in can bring along a placeholder of an
earlier rule, and another run would replace it.  Under the strict policy no such text comes through.
What comes through has no letter behind the identifier, so it has no placeholder of a name, and
whatever the rules call for finds nothing to replace.

* `insertion_of_not_hasLeftover` — one insertion leaves such a text alone;
  `foldl_insertion_of_not_hasLeftover` — so does a run of them.
* `isPattern_of_substitute`, `settled_of_finish` — what is known once a strict run has come through.
* **`resolve_resolved`** — resolving once more gives the same text.
-/

namespace Placeholders.Resolver

open Pattern Text

variable {identifier : String}

/-! ## Texts with nothing left over -/

/-- The placeholder of a name begins with the identifier and a letter. -/
lemma hasLeftover_of_isInfix {spec : String} {text : List Char} (hspec : IsNameSpec spec)
    (h : identifier.toList ++ spec.toList <:+: text) : HasLeftover identifier.toList text := by
  obtain ⟨a, ha, halpha⟩ := (Option.any_eq_true _ _).mp hspec.2
  obtain ⟨rest, hrest⟩ := List.head?_eq_some_iff.mp ha
  have hpre : identifier.toList ++ [a] <+: identifier.toList ++ spec.toList := by
    rw [hrest, List.prefix_append_right_inj]
    exact List.prefix_append [a] rest
  exact ⟨a, halpha, hpre.isInfix.trans h⟩

/-- Where nothing is left over, an insertion for a name finds nothing to replace. -/
lemma insertion_of_not_hasLeftover (hid : identifier ≠ "") {step : String × String} {text : String}
    (hspec : IsNameSpec step.1) (hpattern : IsPattern identifier step.1)
    (h : ¬ HasLeftover identifier.toList text.toList) : insertion identifier text step = text := by
  have hno : ¬ identifier.toList ++ step.1.toList <:+: text.toList :=
    fun hin => h (hasLeftover_of_isInfix hspec hin)
  have hne : identifier.toList ++ step.1.toList ≠ [] :=
    List.append_ne_nil_of_left_ne_nil (by simpa using hid) _
  have hfits : compile (placeholder identifier step.1) ≠ .error .tooLarge := by
    obtain ⟨p, hp⟩ := hpattern
    rw [hp]
    exact nofun
  rw [insertion_of_fitsWord hid ⟨hspec.1, hfits⟩, insertWord, replaceWords_of_not_isInfix hne hno,
    String.ofList_toList]

/-- The text stays the same, so nothing is left over for the next insertion either. -/
lemma foldl_insertion_of_not_hasLeftover (hid : identifier ≠ "") {text : String}
    (h : ¬ HasLeftover identifier.toList text.toList) : ∀ steps : List (String × String),
      (∀ step ∈ steps, IsNameSpec step.1) → (∀ step ∈ steps, IsPattern identifier step.1) →
      steps.foldl (insertion identifier) text = text
  | [], _, _ => rfl
  | step :: steps, hspecs, hpatterns => by
      obtain ⟨hspec, hspecs⟩ := List.forall_mem_cons.mp hspecs
      obtain ⟨hpattern, hpatterns⟩ := List.forall_mem_cons.mp hpatterns
      rw [List.foldl_cons, insertion_of_not_hasLeftover hid hspec hpattern h]
      exact foldl_insertion_of_not_hasLeftover hid h steps hspecs hpatterns

/-! ## Strict runs that come through -/

/-- A strict run gets past the insertions only if every queued spec makes a pattern. -/
lemma isPattern_of_substitute : ∀ {steps : List (String × String)} {current made : String},
    substitute identifier true current steps = .ok made →
      ∀ step ∈ steps, IsPattern identifier step.1
  | [], _, _, _ => fun _ hstep => absurd hstep List.not_mem_nil
  | (spec, new) :: steps, current, made, h => by
      by_cases hpattern : IsPattern identifier spec
      · rw [substitute_step hpattern] at h
        exact List.forall_mem_cons.mpr ⟨hpattern, isPattern_of_substitute h⟩
      · rw [substitute_cons_of_not_isPattern hpattern, if_pos rfl] at h
        cases h

/-- It gets past the search for leftovers only if the search can be made. -/
lemma compile_leftover_of_finish {made text : String}
    (h : finish identifier true made = .ok text) :
    compile (leftover identifier) ≠ .error .tooLarge := by
  intro hlarge
  rw [finish, if_pos rfl, findLeftover, hlarge] at h
  cases h

/-- What comes through the search comes through it again. -/
lemma settled_of_finish {made text : String} (h : finish identifier true made = .ok text) :
    ¬ HasLeftover identifier.toList text.toList ∧ finish identifier true text = .ok text := by
  have hfits := compile_leftover_of_finish h
  have hno := not_hasLeftover_of_finish hfits h
  exact ⟨hno, finish_of_not_hasLeftover hfits hno⟩

/-- The queue has no specs but those of the rules. -/
lemma forall_mem_queue {P : String → Prop} {s : Source} :
    ∀ {entries : List RuleEntry} {steps : List (String × String)}, queue s entries = .ok steps →
      (∀ entry ∈ entries, P entry.spec) → ∀ step ∈ steps, P step.1
  | [], _, h, _ => by
      obtain rfl := Except.ok.inj h
      exact fun _ hstep => absurd hstep List.not_mem_nil
  | entry :: entries, steps, h, hentries => by
      obtain ⟨hentry, hentries⟩ := List.forall_mem_cons.mp hentries
      rw [queue] at h
      obtain ⟨new, -, h⟩ := exists_eq_ok_of_bind h
      obtain ⟨rest, hrest, h⟩ := exists_eq_ok_of_bind h
      have ih := forall_mem_queue hrest hentries
      cases new with
      | none =>
          obtain rfl := Except.ok.inj h
          exact ih
      | some new =>
          obtain rfl := Except.ok.inj h
          exact List.forall_mem_cons.mpr ⟨hentry, ih⟩

/-- **A text that came through under the strict policy is resolved for good.**  If all specs are
names, resolving it for the same source gives it back, whatever the target, the fixed texts and the
values were. -/
theorem resolve_resolved (r : Resolver) (source : Json) (text : String) (hstrict : r.strict = true)
    (hspecs : ∀ entry ∈ r.rules.entries, IsNameSpec entry.spec)
    (h : r.resolve source = .ok text) :
    ({ r with target := text } : Resolver).resolve source = .ok text := by
  have hid : r.identifier ≠ "" := by
    intro hempty
    rw [resolve, String.isEmpty_iff.mpr hempty] at h
    cases h
  rw [resolve_eq_bind hid, hstrict] at h
  obtain ⟨s, hs, h⟩ := exists_eq_ok_of_bind h
  obtain ⟨steps, hqueue, h⟩ := exists_eq_ok_of_bind h
  obtain ⟨made, hsubstitute, hfinish⟩ := exists_eq_ok_of_bind h
  have hpatterns := isPattern_of_substitute hsubstitute
  obtain ⟨hno, hagain⟩ := settled_of_finish hfinish
  have hfold := foldl_insertion_of_not_hasLeftover hid hno steps
    (forall_mem_queue hqueue hspecs) hpatterns
  rw [resolve_eq_bind (r := { r with target := text }) hid]
  calc
    _ = (queue s r.rules.entries >>= fun queued =>
          substitute r.identifier r.strict text queued >>= finish r.identifier r.strict) := by
        rw [hs]; rfl
    _ = (substitute r.identifier r.strict text steps >>= finish r.identifier r.strict) := by
        rw [hqueue]; rfl
    _ = finish r.identifier r.strict text := by
        rw [substitute_of_patterns r.strict text hpatterns, hfold]; rfl
    _ = .ok text := by rw [hstrict, hagain]

/-- The first rule brings along a placeholder for the second, and the source the identifier. -/
def relay : Resolver where
  target := ":from/:to:"
  rules :=
    { catalog := {}
      entries := [⟨"from", .static ":to_2"⟩, ⟨"to", .static "none"⟩]
      positions := [("from", 0), ("to", 1)] }

/-- A source for these rules. -/
def relaySource : Json := .object [("to", .string "::7\\$0")]

theorem resolve_relay :
    relay.strict = true ∧ (∀ entry ∈ relay.rules.entries, IsNameSpec entry.spec)
      ∧ relay.resolve relaySource = .ok "::7\\$0_2/::7\\$0:"
      ∧ ({ relay with target := "::7\\$0_2/::7\\$0:" } : Resolver).resolve relaySource
          = .ok "::7\\$0_2/::7\\$0:" := by
  have hspecs : ∀ entry ∈ relay.rules.entries, IsNameSpec entry.spec := by decide
  have hresolve : relay.resolve relaySource = .ok "::7\\$0_2/::7\\$0:" := by decide +kernel
  exact ⟨rfl, hspecs, hresolve, resolve_resolved relay relaySource _ rfl hspecs hresolve⟩

/-- Under the other policy a text may come through that another run goes on with. -/
example : let r := { relay with target := ":to", strict := false }
    r.resolve (.object [("to", .string ":from")]) = .ok ":from"
      ∧ { r with target := ":from" }.resolve (.object [("to", .string ":from")])
          = .ok ":from_2" := by
  decide +kernel

end Placeholders.Resolver
