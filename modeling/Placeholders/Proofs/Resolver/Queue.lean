import Mathlib.Tactic.Common
import Placeholders.Proofs.Source
import Placeholders.Resolver

/-!
# What the rules call for

Before any text is touched, every rule is asked what it calls for: a text, nothing, or a fault.
The answers are stated here as rules about one entry and a source, without the order in which the
entries are asked; the queue is then put together from the answers.

* `Json.Renders` — the text of a scalar.
* `Calls` — the text that an entry calls for, if it calls for one.
* `Refuses` — the fault that an entry meets instead.  `calls_or_refuses`: one of them is the case.
* **`queue_of_calls`**, **`queue_of_refuses`** — the queue holds the texts of the entries that call
  for one, in the order of the rules; the first entry that refuses stops everything.
-/

namespace Placeholders

/-- The text of a scalar: a string as it is, a number in decimal, a flag by its name. -/
inductive Json.Renders : Json → String → Prop
  | string (s : String) : Renders (.string s) s
  | number (n : Json.Number) : Renders (.number n) n.text
  | yes : Renders (.bool true) "true"
  | no : Renders (.bool false) "false"

lemma Json.renders_iff {value : Json} {text : String} :
    value.Renders text ↔ value.scalarText? = some text := by
  constructor
  · rintro (_ | _ | _ | _) <;> rfl
  · intro h
    cases value with
    | string s => obtain rfl : s = text := by simpa [scalarText?] using h
                  exact .string s
    | number n => obtain rfl : n.text = text := by simpa [scalarText?] using h
                  exact .number n
    | bool b =>
        cases b with
        | true => obtain rfl : "true" = text := by simpa [scalarText?] using h
                  exact .yes
        | false => obtain rfl : "false" = text := by simpa [scalarText?] using h
                   exact .no
    | _ => simp [scalarText?] at h

namespace Resolver

/-- The text that an entry calls for.  A value of the source comes first, as it is under a static
rule and as the chain leaves it under a chain; without a value a static rule falls back on its own
text, and a chain calls for nothing. -/
inductive Calls (source : Json) : RuleEntry → Option String → Prop
  | value {spec text value : String} :
      source.Gives spec value → Calls source ⟨spec, .static text⟩ (some value)
  | output {spec value text : String} {filters : List Filter} {output : Json} :
      source.Gives spec value → Filter.runAll filters (.string value) = .ok output →
      output.Renders text → Calls source ⟨spec, .chain filters⟩ (some text)
  | fallback {spec text : String} :
      (∀ value, ¬ source.Gives spec value) → Calls source ⟨spec, .static text⟩ (some text)
  | nothing {spec : String} {filters : List Filter} :
      (∀ value, ¬ source.Gives spec value) → Calls source ⟨spec, .chain filters⟩ none

/-- The fault that an entry meets: its chain fails on the value, or ends with something that has no
text. -/
inductive Refuses (source : Json) : RuleEntry → Fault → Prop
  | chain {spec value : String} {filters : List Filter} {fault : Fault} :
      source.Gives spec value → Filter.runAll filters (.string value) = .error fault →
      Refuses source ⟨spec, .chain filters⟩ fault
  | output {spec value : String} {filters : List Filter} {output : Json} :
      source.Gives spec value → Filter.runAll filters (.string value) = .ok output →
      (∀ text, ¬ output.Renders text) →
      Refuses source ⟨spec, .chain filters⟩ (.input (.chainOutput spec output.kind))

/-- An entry calls for something or refuses. -/
lemma calls_or_refuses (source : Json) (entry : RuleEntry) :
    (∃ text, Calls source entry text) ∨ ∃ fault, Refuses source entry fault := by
  obtain ⟨spec, rule⟩ := entry
  by_cases hgives : ∃ value, source.Gives spec value
  · obtain ⟨value, hvalue⟩ := hgives
    cases rule with
    | static text => exact Or.inl ⟨_, .value hvalue⟩
    | chain filters =>
        cases hrun : Filter.runAll filters (.string value) with
        | error fault => exact Or.inr ⟨_, .chain hvalue hrun⟩
        | ok output =>
            by_cases htext : ∃ text, output.Renders text
            · obtain ⟨text, htext⟩ := htext
              exact Or.inl ⟨_, .output hvalue hrun htext⟩
            · exact Or.inr ⟨_, .output hvalue hrun (not_exists.mp htext)⟩
  · cases rule with
    | static text => exact Or.inl ⟨_, .fallback (not_exists.mp hgives)⟩
    | chain filters => exact Or.inl ⟨_, .nothing (not_exists.mp hgives)⟩

/-! ## One entry -/

section Entry

variable {s : Source} {source : Json}

lemma value?_eq_none (hs : s.Reads source) {spec : String}
    (h : ∀ value, ¬ source.Gives spec value) : s.value? spec = none := by
  rw [Option.eq_none_iff_forall_ne_some]
  intro value hvalue
  exact h value ((hs spec value).mp hvalue)

lemma outputText_of_renders (spec : String) {output : Json} {text : String}
    (h : output.Renders text) : outputText spec output = .ok text := by
  rw [outputText, Json.renders_iff.mp h]

lemma outputText_of_not_renders (spec : String) {output : Json}
    (h : ∀ text, ¬ output.Renders text) :
    outputText spec output = .error (.input (.chainOutput spec output.kind)) := by
  have htext : output.scalarText? = none := by
    rw [Option.eq_none_iff_forall_ne_some]
    intro text htext
    exact h text (Json.renders_iff.mpr htext)
  rw [outputText, htext]

lemma replacement_of_calls (hs : s.Reads source) {entry : RuleEntry} {text : Option String}
    (h : Calls source entry text) : replacement s entry = .ok text := by
  cases h with
  | value hgives => simp only [replacement, (hs _ _).mpr hgives]
  | @output spec value text filters output hgives hrun htext =>
      simp only [replacement, (hs _ _).mpr hgives, hrun]
      change (outputText spec output >>= fun text => pure (some text)) = .ok (some text)
      rw [outputText_of_renders spec htext]
      rfl
  | fallback hno => simp only [replacement, value?_eq_none hs hno]
  | nothing hno => simp only [replacement, value?_eq_none hs hno]

lemma replacement_of_refuses (hs : s.Reads source) {entry : RuleEntry} {fault : Fault}
    (h : Refuses source entry fault) : replacement s entry = .error fault := by
  cases h with
  | chain hgives hrun =>
      simp only [replacement, (hs _ _).mpr hgives, hrun]
      rfl
  | @output spec value filters output hgives hrun hno =>
      simp only [replacement, (hs _ _).mpr hgives, hrun]
      change (outputText spec output >>= fun text => pure (some text)) = _
      rw [outputText_of_not_renders spec hno]
      rfl

/-- What an entry calls for is determined: it is what the program comes to. -/
lemma calls_iff_replacement (hs : s.Reads source) {entry : RuleEntry} {text : Option String} :
    Calls source entry text ↔ replacement s entry = .ok text := by
  refine ⟨replacement_of_calls hs, fun h => ?_⟩
  rcases calls_or_refuses source entry with ⟨text', hcalls⟩ | ⟨fault, hrefuses⟩
  · rw [replacement_of_calls hs hcalls] at h
    exact Except.ok.inj h ▸ hcalls
  · rw [replacement_of_refuses hs hrefuses] at h
    cases h

lemma exists_calls_of_isOk (hs : s.Reads source) {entry : RuleEntry}
    (h : (replacement s entry).isOk) : ∃ text, Calls source entry text := by
  cases hentry : replacement s entry with
  | ok text => exact ⟨text, (calls_iff_replacement hs).mpr hentry⟩
  | error fault => rw [hentry] at h; cases h

end Entry

/-! ## All entries -/

/-- Specs with their texts, in the order of the entries; entries that call for nothing are left
out. -/
def queued (text : RuleEntry → Option String) (entries : List RuleEntry) :
    List (String × String) :=
  entries.filterMap fun entry => (text entry).map fun new => (entry.spec, new)

section Queue

variable {s : Source} {source : Json}

/-- **The queue holds the texts that the entries call for.** -/
theorem queue_of_calls (hs : s.Reads source) {text : RuleEntry → Option String} :
    ∀ {entries : List RuleEntry}, (∀ entry ∈ entries, Calls source entry (text entry)) →
      queue s entries = .ok (queued text entries)
  | [], _ => rfl
  | entry :: rest, h => by
      have hentry := replacement_of_calls hs (h entry (List.mem_cons_self ..))
      have hrest := queue_of_calls hs fun e he => h e (List.mem_cons_of_mem _ he)
      simp only [queue, hentry, hrest, queued, List.filterMap_cons]
      cases text entry <;> rfl

/-- **The first entry that refuses stops everything.** -/
theorem queue_of_refuses (hs : s.Reads source) {entry : RuleEntry} {fault : Fault}
    (h : Refuses source entry fault) (after : List RuleEntry) :
    ∀ {before : List RuleEntry}, (∀ e ∈ before, ∃ text, Calls source e text) →
      queue s (before ++ entry :: after) = .error fault
  | [], _ => by
      rw [List.nil_append, queue, replacement_of_refuses hs h]
      rfl
  | e :: before, hbefore => by
      obtain ⟨text, htext⟩ := hbefore e (List.mem_cons_self ..)
      have ih := queue_of_refuses hs h after fun e he => hbefore e (List.mem_cons_of_mem _ he)
      rw [List.cons_append, queue, replacement_of_calls hs htext, ih]
      rfl

/-- An entry that calls for nothing is not missed. -/
lemma queue_append_cons_of_nothing (hs : s.Reads source) {entry : RuleEntry}
    (h : Calls source entry none) (after : List RuleEntry) : ∀ before : List RuleEntry,
      queue s (before ++ entry :: after) = queue s (before ++ after)
  | [] => by
      rw [List.nil_append, List.nil_append, queue, replacement_of_calls hs h]
      change (queue s after >>= fun queued => pure queued) = queue s after
      exact bind_pure _
  | e :: before => by
      rw [List.cons_append, List.cons_append, queue, queue,
        queue_append_cons_of_nothing hs h after before]

end Queue

section Queued

variable {text : RuleEntry → Option String}

lemma queued_append (text : RuleEntry → Option String) (before after : List RuleEntry) :
    queued text (before ++ after) = queued text before ++ queued text after :=
  List.filterMap_append

lemma queued_cons_of_some {entry : RuleEntry} {new : String} (h : text entry = some new)
    (after : List RuleEntry) :
    queued text (entry :: after) = (entry.spec, new) :: queued text after := by
  simp only [queued, List.filterMap_cons, h, Option.map_some]

lemma mem_queued {entries : List RuleEntry} {step : String × String} :
    step ∈ queued text entries
      ↔ ∃ entry ∈ entries, entry.spec = step.1 ∧ text entry = some step.2 := by
  obtain ⟨spec, new⟩ := step
  simp only [queued, List.mem_filterMap, Option.map_eq_some_iff, Prod.mk.injEq]
  constructor
  · rintro ⟨entry, hentry, _, hnew, hspec, rfl⟩
    exact ⟨entry, hentry, hspec, hnew⟩
  · rintro ⟨entry, hentry, hspec, hnew⟩
    exact ⟨entry, hentry, new, hnew, hspec, rfl⟩

/-- What holds of the specs of entries with a text holds of all queued specs. -/
lemma forall_mem_queued {P : String → Prop} {entries : List RuleEntry}
    (h : ∀ entry ∈ entries, ∀ new, text entry = some new → P entry.spec) :
    ∀ step ∈ queued text entries, P step.1 := by
  intro step hstep
  obtain ⟨entry, hentry, hspec, hnew⟩ := mem_queued.mp hstep
  exact hspec ▸ h entry hentry step.2 hnew

end Queued

/-! ## The first entry that is different -/

/-- Either all entries have a property, or there is a first one that does not. -/
lemma forall_mem_or_exists_first (P : RuleEntry → Prop) : ∀ entries : List RuleEntry,
    (∀ entry ∈ entries, P entry) ∨ ∃ before entry after, entries = before ++ entry :: after
      ∧ (∀ e ∈ before, P e) ∧ ¬ P entry
  | [] => Or.inl fun entry h => absurd h List.not_mem_nil
  | entry :: entries => by
      by_cases hentry : P entry
      · rcases forall_mem_or_exists_first P entries with hall | ⟨before, e, after, rfl, hbefore, he⟩
        · exact Or.inl (List.forall_mem_cons.mpr ⟨hentry, hall⟩)
        · exact Or.inr ⟨entry :: before, e, after, rfl,
            List.forall_mem_cons.mpr ⟨hentry, hbefore⟩, he⟩
      · exact Or.inr ⟨[], entry, entries, rfl, fun e he => absurd he List.not_mem_nil, hentry⟩

/-- Either all entries call for something, or there is a first one that refuses. -/
lemma all_call_or_first_refuses (source : Json) (entries : List RuleEntry) :
    (∃ text : RuleEntry → Option String, ∀ entry ∈ entries, Calls source entry (text entry))
      ∨ ∃ before entry after fault, entries = before ++ entry :: after
        ∧ (∀ e ∈ before, ∃ text, Calls source e text) ∧ Refuses source entry fault := by
  rcases forall_mem_or_exists_first (fun entry => ∃ text, Calls source entry text) entries with
    hall | ⟨before, entry, after, hentries, hbefore, hentry⟩
  · choose! text htext using hall
    exact Or.inl ⟨text, htext⟩
  · obtain ⟨fault, hfault⟩ := (calls_or_refuses source entry).resolve_left hentry
    exact Or.inr ⟨before, entry, after, fault, hentries, hbefore, hfault⟩

end Resolver

end Placeholders
