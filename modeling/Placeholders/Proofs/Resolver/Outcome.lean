import Placeholders.Proofs.Resolver.Leftover
import Placeholders.Proofs.Resolver.Queue
import Placeholders.Proofs.Template

/-!
# What a source resolves to

The meaning of resolving a target, for a resolver that lets leftover placeholders stand.  `Outcome`
is the reference: which sources are refused and what is said about them, which rule stops
everything, and else the text that comes of inserting what the rules call for.

* `withPolicy`, `withRules` — the resolver under another policy, and with other rules.
* `insertion` — one insertion: every match of a placeholder becomes the text, character by
  character.  A spec that makes no pattern changes nothing.
* `substitute_append_of_patterns` — the step of the substitution loop, and with it the loop: as long
  as the specs make patterns, both policies do the same insertions on what was made so far.
* `resolve_of_not_object`, `resolve_of_not_isString`, `resolve_of_refuses`, `resolve_permissive` —
  one equation for each kind of outcome.
* **`resolve_eq_iff_outcome`** — the resolver gives just the outcomes of the reference.
-/

namespace Placeholders.Resolver

open Pattern

/-- The resolver under a policy. -/
def withPolicy (r : Resolver) (strict : Bool) : Resolver := { r with strict := strict }

/-- The resolver with other rules. -/
def withRules (r : Resolver) (rules : RuleTable) : Resolver := { r with rules := rules }

/-- The identifier and the spec make a pattern. -/
def IsPattern (identifier spec : String) : Prop :=
  ∃ p, compile (placeholder identifier spec) = .ok p

/-- One insertion into the text made so far: every match of the placeholder is replaced by the text.
A spec that makes no pattern changes nothing. -/
def insertion (identifier current : String) (step : String × String) : String :=
  match compile (placeholder identifier step.1) with
  | .ok p => p.replaceAll (fun _ => step.2.toList) current
  | .error _ => current

/-- **The reference.**  What a source resolves to if leftover placeholders may stand. -/
inductive Outcome (r : Resolver) : Json → Except Fault String → Prop
  /-- a source that is no object -/
  | noObject {source : Json} : (∀ fields, source ≠ .object fields) →
      Outcome r source (.error (.input (.sourceKind source.kind)))
  /-- a value that is no string; the one under the least key is named -/
  | noString {fields : List (String × Json)} {key : String} {value : Json} :
      (key, value) ∈ fields → ¬ value.IsString →
      (∀ other ∈ fields, ¬ other.2.IsString → key ≤ other.1) →
      Outcome r (.object fields) (.error (.input (.sourceValue key value.kind)))
  /-- a rule that refuses, the first one in order -/
  | refused {source : Json} {before after : List RuleEntry} {entry : RuleEntry} {fault : Fault} :
      source.HoldsStrings → r.rules.entries = before ++ entry :: after →
      (∀ e ∈ before, ∃ text, Calls source e text) → Refuses source entry fault →
      Outcome r source (.error fault)
  /-- the insertions, in the order of the rules, each into what those before it have made -/
  | resolved {source : Json} {text : RuleEntry → Option String} :
      source.HoldsStrings → (∀ entry ∈ r.rules.entries, Calls source entry (text entry)) →
      Outcome r source
        (.ok ((queued text r.rules.entries).foldl (insertion r.identifier) r.target))

/-! ## The substitution loop -/

section Substitute

variable {identifier : String}

/-- A step with a pattern: what goes into the text is escaped and read back, so it is the text. -/
lemma substitute_step {spec : String} (h : IsPattern identifier spec) (strict : Bool)
    (current new : String) (rest : List (String × String)) :
    substitute identifier strict current ((spec, new) :: rest)
      = substitute identifier strict (insertion identifier current (spec, new)) rest := by
  obtain ⟨p, hp⟩ := h
  simp only [substitute, insertion, hp, insertText, replaceByTemplate_escapeLiteral]

/-- **As long as the specs make patterns, the loop inserts.** -/
theorem substitute_append_of_patterns (strict : Bool) (rest : List (String × String)) :
    ∀ (steps : List (String × String)) (current : String),
      (∀ step ∈ steps, IsPattern identifier step.1) →
      substitute identifier strict current (steps ++ rest)
        = substitute identifier strict (steps.foldl (insertion identifier) current) rest
  | [], _, _ => rfl
  | (spec, new) :: steps, current, h => by
      have hhere : IsPattern identifier spec := h (spec, new) (List.mem_cons_self ..)
      rw [List.cons_append, substitute_step hhere, List.foldl_cons]
      exact substitute_append_of_patterns strict rest steps _ fun s hs =>
        h s (List.mem_cons_of_mem _ hs)

/-- The same without more steps behind them. -/
lemma substitute_of_patterns (strict : Bool) {steps : List (String × String)} (current : String)
    (h : ∀ step ∈ steps, IsPattern identifier step.1) :
    substitute identifier strict current steps
      = .ok (steps.foldl (insertion identifier) current) := by
  have hsteps := substitute_append_of_patterns strict [] steps current h
  rw [List.append_nil] at hsteps
  exact hsteps

/-- What makes no pattern is an insertion too: one that changes nothing. -/
lemma insertion_of_not_isPattern {spec : String} (h : ¬ IsPattern identifier spec)
    (current new : String) : insertion identifier current (spec, new) = current := by
  rw [insertion]
  cases hc : compile (placeholder identifier spec) with
  | ok p => exact absurd ⟨p, hc⟩ h
  | error defect => rfl

lemma substitute_cons_of_not_isPattern {spec : String} (h : ¬ IsPattern identifier spec)
    (strict : Bool) (current new : String) (rest : List (String × String)) :
    substitute identifier strict current ((spec, new) :: rest)
      = if strict then .error (.unresolved identifier spec current)
        else substitute identifier strict current rest := by
  cases hc : compile (placeholder identifier spec) with
  | ok p => exact absurd ⟨p, hc⟩ h
  | error defect => simp only [substitute, hc]

/-- **Without the strict policy the loop always inserts.** -/
theorem substitute_permissive : ∀ (steps : List (String × String)) (current : String),
    substitute identifier false current steps = .ok (steps.foldl (insertion identifier) current)
  | [], _ => rfl
  | (spec, new) :: steps, current => by
      rw [List.foldl_cons, ← substitute_permissive steps]
      by_cases h : IsPattern identifier spec
      · exact substitute_step h false current new steps
      · rw [substitute_cons_of_not_isPattern h, insertion_of_not_isPattern h]
        rfl

end Substitute

/-! ## The kinds of outcome -/

section Kinds

variable {r : Resolver} {source : Json}

lemma resolve_eq_bind (hid : r.identifier ≠ "") :
    r.resolve source = Source.ofJson source >>= fun s =>
      queue s r.rules.entries >>= fun queued =>
        substitute r.identifier r.strict r.target queued >>= finish r.identifier r.strict := by
  have h : r.identifier.isEmpty = false := by simpa using hid
  rw [resolve, h]
  rfl

lemma resolve_of_not_object (hid : r.identifier ≠ "") (h : ∀ fields, source ≠ .object fields) :
    r.resolve source = .error (.input (.sourceKind source.kind)) := by
  rw [resolve_eq_bind hid, Source.ofJson_of_not_object h]
  rfl

lemma resolve_of_not_isString {fields : List (String × Json)} {key : String} {value : Json}
    (hid : r.identifier ≠ "") (hord : (Json.object fields).Ordered) (hmem : (key, value) ∈ fields)
    (hval : ¬ value.IsString) (hleast : ∀ other ∈ fields, ¬ other.2.IsString → key ≤ other.1) :
    r.resolve (.object fields) = .error (.input (.sourceValue key value.kind)) := by
  rw [resolve_eq_bind hid, Source.ofJson_of_not_isString hord hmem hval hleast]
  rfl

lemma resolve_of_refuses {before after : List RuleEntry} {entry : RuleEntry} {fault : Fault}
    (hid : r.identifier ≠ "") (hord : source.Ordered) (hstr : source.HoldsStrings)
    (hentries : r.rules.entries = before ++ entry :: after)
    (hbefore : ∀ e ∈ before, ∃ text, Calls source e text) (h : Refuses source entry fault) :
    r.resolve source = .error fault := by
  obtain ⟨s, hs, hreads⟩ := Source.ofJson_of_holdsStrings hord hstr
  have hqueue := queue_of_refuses hreads h after hbefore
  rw [← hentries] at hqueue
  rw [resolve_eq_bind hid, hs]
  change queue s r.rules.entries >>= _ = _
  rw [hqueue]
  rfl

/-- Once it is known what the entries call for, the rest is substituting and the end. -/
lemma resolve_of_calls {text : RuleEntry → Option String} (hid : r.identifier ≠ "")
    (hord : source.Ordered) (hstr : source.HoldsStrings)
    (hcalls : ∀ entry ∈ r.rules.entries, Calls source entry (text entry)) :
    r.resolve source
      = substitute r.identifier r.strict r.target (queued text r.rules.entries)
          >>= finish r.identifier r.strict := by
  obtain ⟨s, hs, hreads⟩ := Source.ofJson_of_holdsStrings hord hstr
  rw [resolve_eq_bind hid, hs]
  change queue s r.rules.entries >>= _ = _
  rw [queue_of_calls hreads hcalls]
  rfl

lemma resolve_permissive {text : RuleEntry → Option String} (hid : r.identifier ≠ "")
    (hperm : r.strict = false) (hord : source.Ordered) (hstr : source.HoldsStrings)
    (hcalls : ∀ entry ∈ r.rules.entries, Calls source entry (text entry)) :
    r.resolve source
      = .ok ((queued text r.rules.entries).foldl (insertion r.identifier) r.target) := by
  rw [resolve_of_calls hid hord hstr hcalls, hperm, substitute_permissive]
  rfl

end Kinds

/-! ## The reference -/

/-- Every source has an outcome. -/
lemma exists_outcome (r : Resolver) {source : Json} (hord : source.Ordered) :
    ∃ out, Outcome r source out := by
  cases source with
  | object fields =>
      rcases Source.holdsStrings_or_exists_least hord with hstr | ⟨⟨key, value⟩, hmem, hval, hleast⟩
      · rcases all_call_or_first_refuses (.object fields) r.rules.entries with
          ⟨text, hcalls⟩ | ⟨before, entry, after, fault, hentries, hbefore, hfault⟩
        · exact ⟨_, .resolved hstr hcalls⟩
        · exact ⟨_, .refused hstr hentries hbefore hfault⟩
      · exact ⟨_, .noString hmem hval hleast⟩
  | _ => exact ⟨_, .noObject fun fields h => by cases h⟩

/-- The resolver gives the outcomes of the reference. -/
lemma resolve_of_outcome {r : Resolver} {source : Json} {out : Except Fault String}
    (hid : r.identifier ≠ "") (hperm : r.strict = false) (hord : source.Ordered)
    (h : Outcome r source out) : r.resolve source = out := by
  cases h with
  | noObject hno => exact resolve_of_not_object hid hno
  | noString hmem hval hleast => exact resolve_of_not_isString hid hord hmem hval hleast
  | refused hstr hentries hbefore hfault =>
      exact resolve_of_refuses hid hord hstr hentries hbefore hfault
  | resolved hstr hcalls => exact resolve_permissive hid hperm hord hstr hcalls

/-- **The meaning of resolving without the strict policy.**  The resolver gives an outcome just if
the reference does: sources are refused as the reference says, the first rule that refuses decides,
and else what the rules call for is inserted verbatim, one after the other. -/
theorem resolve_eq_iff_outcome (r : Resolver) (source : Json) (out : Except Fault String)
    (hid : r.identifier ≠ "") (hperm : r.strict = false) (hord : source.Ordered) :
    r.resolve source = out ↔ Outcome r source out := by
  constructor
  · intro hout
    obtain ⟨out', h⟩ := exists_outcome r hord
    have hout' := resolve_of_outcome hid hperm hord h
    rw [← hout, hout']
    exact h
  · exact resolve_of_outcome hid hperm hord

/-- Rules of all kinds: a fixed text that a value takes the place of, a text that a later rule works
on, a spec that makes no pattern, a chain that gives a number, and a chain without a value. -/
def mixed : Resolver where
  target := ":name :greeting :(x :size :gone"
  strict := false
  rules :=
    { catalog := {}
      entries :=
        [⟨"name", .static "nobody"⟩, ⟨"greeting", .static "hi :who"⟩, ⟨"who", .static "all"⟩,
         ⟨"(x", .static "never"⟩, ⟨"size", .chain [⟨"seven", fun _ => .ok (.number (.int 7))⟩]⟩,
         ⟨"gone", .chain []⟩]
      positions := [("(x", 3), ("gone", 5), ("greeting", 1), ("name", 0), ("size", 4), ("who", 2)] }

/-- A source for these rules, with a value full of template signs. -/
def mixedSource : Json := .object [("name", .string "\\1$0$\\"), ("size", .string "big")]

theorem outcome_mixed :
    mixed.identifier ≠ "" ∧ mixed.strict = false ∧ mixedSource.Ordered
      ∧ Outcome mixed mixedSource (.ok "\\1$0$\\ hi all :(x 7 :gone") := by
  have hid : mixed.identifier ≠ "" := by decide
  have hord : mixedSource.Ordered := by decide
  exact ⟨hid, rfl, hord,
    (resolve_eq_iff_outcome mixed mixedSource _ hid rfl hord).mp (by decide +kernel)⟩

end Placeholders.Resolver
