import Placeholders.Proofs.Resolver.Outcome

/-!
# What the policy decides

A resolver is run twice on one source, under either policy.  Under the strict one the run ends at
the first queued spec that makes no pattern, and the finished text is searched for leftovers; the
other run goes on and does not search.  Up to the place where they part the two runs do the same,
so the policy says whether to fail and never what is computed.

* `IsQueued` — an entry calls for a text.
* `Verdict` — what the strict run gives, told by what the other one gives.  What it has made when it
  stops at a spec is what the other policy makes of the rules before this spec.
* `resolve_drop_of_nothing` — an entry that calls for nothing has no part in it, whatever its spec.
* **`resolve_verdict`** — the two runs are related by `Verdict`.
-/

namespace Placeholders.Resolver

open Pattern

/-- The entry calls for a text. -/
def IsQueued (source : Json) (entry : RuleEntry) : Prop := ∃ new, Calls source entry (some new)

/-- What the strict run gives (on the right), told by what the permissive run gives. -/
inductive Verdict (r : Resolver) (source : Json) :
    Except Fault String → Except Fault String → Prop
  /-- what stops one run stops the other -/
  | fault (fault : Fault) : Verdict r source (.error fault) (.error fault)
  /-- the first queued spec that makes no pattern ends the run; what was made so far is what the
  rules before it make under the other policy -/
  | noPattern {before after : List RuleEntry} {entry : RuleEntry} {made text : String} :
      r.rules.entries = before ++ entry :: after →
      (∀ e ∈ before, IsQueued source e → IsPattern r.identifier e.spec) →
      IsQueued source entry → ¬ IsPattern r.identifier entry.spec →
      (∀ rules : RuleTable, rules.entries = before →
        ((r.withPolicy false).withRules rules).resolve source = .ok made) →
      Verdict r source (.ok text) (.error (.unresolved r.identifier entry.spec made))
  /-- all queued specs make patterns, but something is left over -/
  | leftover {spec text : String} :
      (∀ e ∈ r.rules.entries, IsQueued source e → IsPattern r.identifier e.spec) →
      HasLeftover r.identifier.toList text.toList →
      Verdict r source (.ok text) (.error (.unresolved r.identifier spec text))
  /-- nothing is left over -/
  | resolved {text : String} :
      (∀ e ∈ r.rules.entries, IsQueued source e → IsPattern r.identifier e.spec) →
      ¬ HasLeftover r.identifier.toList text.toList →
      Verdict r source (.ok text) (.ok text)

/-- A text that the strict run gives is the one that the other run gives. -/
lemma Verdict.eq_of_ok {r : Resolver} {source : Json} {permissive strict : Except Fault String}
    (h : Verdict r source permissive strict) {text : String} (hok : strict = .ok text) :
    permissive = .ok text := by
  cases h with
  | resolved => exact hok
  | _ => cases hok

section Runs

variable {r : Resolver} {source : Json}

/-! ## Entries that call for nothing -/

/-- An entry that calls for nothing may be dropped, whatever its spec is. -/
lemma resolve_drop_of_nothing {before after : List RuleEntry} {entry : RuleEntry}
    {rules : RuleTable} (hid : r.identifier ≠ "") (hord : source.Ordered)
    (hentries : r.rules.entries = before ++ entry :: after) (hnothing : Calls source entry none)
    (hrules : rules.entries = before ++ after) :
    (r.withRules rules).resolve source = r.resolve source := by
  rw [resolve_eq_bind hid, resolve_eq_bind (r := r.withRules rules) hid]
  cases hs : Source.ofJson source with
  | error fault => rfl
  | ok s =>
      have hqueue : queue s r.rules.entries = queue s rules.entries := by
        rw [hentries, hrules]
        exact queue_append_cons_of_nothing (Source.reads_of_ofJson hord hs) hnothing after before
      change queue s rules.entries >>= _ = queue s r.rules.entries >>= _
      rw [hqueue]
      rfl

/-! ## Faults of the permissive run -/

/-- The permissive run never reports a placeholder on its own: if it does, a filter said so. -/
lemma exists_filter_of_unresolved {identifier spec text : String} (hid : r.identifier ≠ "")
    (hperm : r.strict = false) (hord : source.Ordered)
    (h : r.resolve source = .error (.unresolved identifier spec text)) :
    ∃ key value filters, ⟨key, .chain filters⟩ ∈ r.rules.entries ∧ source.Gives key value
      ∧ Filter.runAll filters (.string value) = .error (.unresolved identifier spec text) := by
  obtain ⟨out, hout⟩ := exists_outcome r hord
  rw [resolve_of_outcome hid hperm hord hout] at h
  subst h
  cases hout with
  | @refused _ before after entry fault hstr hentries hbefore hfault =>
      cases hfault with
      | @chain key value filters _ hgives hrun =>
          refine ⟨key, value, filters, ?_, hgives, hrun⟩
          rw [hentries]
          exact List.mem_append_right _ (List.mem_cons_self ..)

/-! ## The strict run -/

variable {text : RuleEntry → Option String}

/-- If all queued specs make patterns, the strict run makes what the other one makes, and then looks
for leftovers. -/
lemma verdict_of_patterns (hid : r.identifier ≠ "")
    (hfits : compile (leftover r.identifier) ≠ .error .tooLarge) (hord : source.Ordered)
    (hstr : source.HoldsStrings) (hcalls : ∀ e ∈ r.rules.entries, Calls source e (text e))
    (hpatterns : ∀ e ∈ r.rules.entries, IsQueued source e → IsPattern r.identifier e.spec) :
    Verdict r source
      (.ok ((queued text r.rules.entries).foldl (insertion r.identifier) r.target))
      ((r.withPolicy true).resolve source) := by
  set made := (queued text r.rules.entries).foldl (insertion r.identifier) r.target
  have hsteps : ∀ step ∈ queued text r.rules.entries, IsPattern r.identifier step.1 :=
    forall_mem_queued fun e he new hnew => hpatterns e he ⟨new, hnew ▸ hcalls e he⟩
  have hrun : (r.withPolicy true).resolve source = finish r.identifier true made := by
    rw [resolve_of_calls (r := r.withPolicy true) hid hord hstr hcalls]
    change substitute r.identifier true r.target (queued text r.rules.entries) >>= _ = _
    rw [substitute_of_patterns true r.target hsteps]
    exact pure_bind made (finish r.identifier true)
  rw [hrun]
  by_cases hleft : HasLeftover r.identifier.toList made.toList
  · obtain ⟨spec, hspec⟩ := finish_of_hasLeftover hfits hleft
    rw [hspec]
    exact .leftover hpatterns hleft
  · rw [finish_of_not_hasLeftover hfits hleft]
    exact .resolved hpatterns hleft

/-- At the first queued spec that makes no pattern the strict run ends. -/
lemma verdict_of_not_isPattern {before after : List RuleEntry} {entry : RuleEntry}
    (hid : r.identifier ≠ "") (hord : source.Ordered) (hstr : source.HoldsStrings)
    (hcalls : ∀ e ∈ r.rules.entries, Calls source e (text e))
    (hentries : r.rules.entries = before ++ entry :: after)
    (hbefore : ∀ e ∈ before, IsQueued source e → IsPattern r.identifier e.spec)
    (hqueued : IsQueued source entry) (hno : ¬ IsPattern r.identifier entry.spec) (out : String) :
    Verdict r source (.ok out) ((r.withPolicy true).resolve source) := by
  set made := (queued text before).foldl (insertion r.identifier) r.target
  have hmem : entry ∈ r.rules.entries := by
    rw [hentries]
    exact List.mem_append_right _ (List.mem_cons_self ..)
  have hcallsBefore : ∀ e ∈ before, Calls source e (text e) := fun e he =>
    hcalls e (hentries ▸ List.mem_append_left _ he)
  have hsteps : ∀ step ∈ queued text before, IsPattern r.identifier step.1 :=
    forall_mem_queued fun e he new hnew => hbefore e he ⟨new, hnew ▸ hcallsBefore e he⟩
  obtain ⟨new, hnew⟩ := hqueued
  have hsome : text entry = some new := by
    obtain ⟨s, -, hreads⟩ := Source.ofJson_of_holdsStrings hord hstr
    have hsame := (replacement_of_calls hreads (hcalls entry hmem)).symm.trans
      (replacement_of_calls hreads hnew)
    exact Except.ok.inj hsame
  have hrun : (r.withPolicy true).resolve source
      = .error (.unresolved r.identifier entry.spec made) := by
    rw [resolve_of_calls (r := r.withPolicy true) hid hord hstr hcalls]
    change substitute r.identifier true r.target (queued text r.rules.entries) >>= _ = _
    rw [hentries, queued_append, queued_cons_of_some hsome,
      substitute_append_of_patterns true _ _ r.target hsteps,
      substitute_cons_of_not_isPattern hno]
    rfl
  rw [hrun]
  refine .noPattern hentries hbefore ⟨new, hnew⟩ hno fun rules hrules => ?_
  subst hrules
  exact resolve_permissive (r := (r.withPolicy false).withRules rules) hid rfl hord hstr
    hcallsBefore

end Runs

/-! ## Both runs -/

/-- The two runs of a resolver are related. -/
lemma verdict (r : Resolver) {source : Json} (hid : r.identifier ≠ "")
    (hfits : compile (leftover r.identifier) ≠ .error .tooLarge) (hord : source.Ordered) :
    Verdict r source ((r.withPolicy false).resolve source)
      ((r.withPolicy true).resolve source) := by
  obtain ⟨out, hout⟩ := exists_outcome (r.withPolicy false) hord
  rw [resolve_of_outcome (r := r.withPolicy false) hid rfl hord hout]
  cases hout with
  | noObject hno =>
      rw [resolve_of_not_object (r := r.withPolicy true) hid hno]
      exact .fault _
  | noString hmem hval hleast =>
      rw [resolve_of_not_isString (r := r.withPolicy true) hid hord hmem hval hleast]
      exact .fault _
  | refused hstr hentries hbefore hfault =>
      rw [resolve_of_refuses (r := r.withPolicy true) hid hord hstr hentries hbefore hfault]
      exact .fault _
  | resolved hstr hcalls =>
      rcases forall_mem_or_exists_first
          (fun e => IsQueued source e → IsPattern r.identifier e.spec) r.rules.entries with
        hall | ⟨before, entry, after, hentries, hbefore, hentry⟩
      · exact verdict_of_patterns hid hfits hord hstr hcalls hall
      · obtain ⟨hqueued, hno⟩ := Classical.not_imp.mp hentry
        exact verdict_of_not_isPattern hid hord hstr hcalls hentries hbefore hqueued hno _

/-- **The policy decides whether to fail, and never what is computed.**  The strict run is told by
the permissive one.  The permissive run reports no placeholder on its own, a text that the strict
run gives is the text of the permissive run, and an entry that is not queued does not count for the
strict run, even if its spec makes no pattern. -/
theorem resolve_verdict (r : Resolver) (source : Json) (hid : r.identifier ≠ "")
    (hfits : compile (leftover r.identifier) ≠ .error .tooLarge) (hord : source.Ordered) :
    Verdict r source ((r.withPolicy false).resolve source) ((r.withPolicy true).resolve source)
      ∧ (∀ identifier spec text,
          (r.withPolicy false).resolve source = .error (.unresolved identifier spec text) →
          ∃ key value filters, ⟨key, .chain filters⟩ ∈ r.rules.entries ∧ source.Gives key value
            ∧ Filter.runAll filters (.string value) = .error (.unresolved identifier spec text))
      ∧ (∀ text, (r.withPolicy true).resolve source = .ok text →
          (r.withPolicy false).resolve source = .ok text)
      ∧ ∀ (before after : List RuleEntry) (entry : RuleEntry) (rules : RuleTable),
          r.rules.entries = before ++ entry :: after → Calls source entry none →
          rules.entries = before ++ after →
          ((r.withPolicy true).withRules rules).resolve source
            = (r.withPolicy true).resolve source := by
  have hverdict := verdict r hid hfits hord
  refine ⟨hverdict, fun identifier spec text h => ?_, fun text h => hverdict.eq_of_ok h,
    fun before after entry rules hentries hnothing hrules => ?_⟩
  · exact exists_filter_of_unresolved (r := r.withPolicy false) hid rfl hord h
  · exact resolve_drop_of_nothing (r := r.withPolicy true) hid hord hentries hnothing hrules

theorem verdict_mixed :
    mixed.identifier ≠ "" ∧ compile (leftover mixed.identifier) ≠ .error .tooLarge
      ∧ mixedSource.Ordered
      ∧ Verdict mixed mixedSource (.ok "\\1$0$\\ hi all :(x 7 :gone")
          (.error (.unresolved ":" "(x" "\\1$0$\\ hi all :(x :size :gone")) := by
  have hid : mixed.identifier ≠ "" := by decide
  have hfits : compile (leftover mixed.identifier) ≠ .error .tooLarge :=
    compile_leftover_singleton ':'
  have hord : mixedSource.Ordered := by decide
  have hverdict := (resolve_verdict mixed mixedSource hid hfits hord).1
  have hpermissive : (mixed.withPolicy false).resolve mixedSource
      = .ok "\\1$0$\\ hi all :(x 7 :gone" := by decide +kernel
  have hstrict : (mixed.withPolicy true).resolve mixedSource
      = .error (.unresolved ":" "(x" "\\1$0$\\ hi all :(x :size :gone") := by decide +kernel
  rw [hpermissive, hstrict] at hverdict
  exact ⟨hid, hfits, hord, hverdict⟩

end Placeholders.Resolver
