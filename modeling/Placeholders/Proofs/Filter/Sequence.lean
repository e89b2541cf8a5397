import Mathlib.Data.List.Basic
import Placeholders.Proofs.Filter.Substitution
import Placeholders.Proofs.Template.Scan

/-!
# What a substitution does, from how it was set up

Patterns and templates are added in any order, and a pattern that does not compile is not added.  So
what counts is only which patterns did compile, in their order, and which templates there are, in
theirs.

* `Call`, `built` — what is called to set a substitution up, and what comes of it.
* `built_eq` — patterns and templates do not get into each other's way.
* `chained`, `sequential` — the patterns one after the other, each with its template, on a text and
  on a value.
* `templateAt_eq`, `toFilter_congr` — only the templates at the places of patterns count.
* **`built_sequential`** — the filter, however it was set up.
-/

namespace Placeholders.Substitution

variable {s s' : Substitution} {ps : List Pattern} {rs : List String}

/-! ## Setting up -/

/-- A call that sets a substitution up. -/
inductive Call where
  | pattern (source : String)
  | template (text : String)

/-- The substitution that a call leaves. -/
def Call.left : Call → Substitution → Substitution
  | .pattern source, s => (addPattern source).left s
  | .template text, s => s.addTemplate text

/-- What comes of some calls, beginning with an empty substitution. -/
def built (calls : List Call) : Substitution := calls.foldl (fun s call => call.left s) {}

/-- The pattern that a call adds, if it is one that adds a pattern and it is done. -/
def Call.pattern? : Call → Option Pattern
  | .pattern source => (compilePattern source).toOption
  | .template _ => none

/-- The template that a call adds. -/
def Call.template? : Call → Option String
  | .pattern _ => none
  | .template text => some text

lemma left_eq (call : Call) (s : Substitution) :
    call.left s = ⟨s.patterns ++ call.pattern?.toList, s.templates ++ call.template?.toList⟩ := by
  cases call with
  | pattern source =>
      rw [Call.left, Work.left, Resolver.run_addPattern]
      cases h : compilePattern source <;> simp [Call.pattern?, Call.template?, h, Except.toOption]
  | template text => simp [Call.left, addTemplate, Call.pattern?, Call.template?]

/-- Patterns and templates do not get into each other's way. -/
lemma built_eq (calls : List Call) :
    built calls = ⟨calls.filterMap Call.pattern?, calls.filterMap Call.template?⟩ := by
  have hfrom : ∀ (calls : List Call) (s : Substitution),
      calls.foldl (fun s call => call.left s) s
        = ⟨s.patterns ++ calls.filterMap Call.pattern?,
          s.templates ++ calls.filterMap Call.template?⟩ := by
    intro calls
    induction calls with
    | nil => simp
    | cons call calls ih =>
        intro s
        rw [List.foldl_cons, ih, left_eq]
        cases hp : call.pattern? <;> cases hr : call.template? <;> simp [hp, hr]
  simpa [built] using hfrom calls {}

/-- A pattern keeps the text that it was read from. -/
lemma source_of_compilePattern {source : String} {p : Pattern} (h : compilePattern source = .ok p) :
    p.source = source := by
  simp only [compilePattern, Pattern.compile] at h
  split_ifs at h
  split at h
  · next hcompile =>
      obtain rfl := Except.ok.inj h
      split at hcompile
      · split_ifs at hcompile
        exact (congrArg Pattern.source (Except.ok.inj hcompile)).symm
      · cases hcompile
  · cases h

lemma compilePattern_source {call : Call} {p : Pattern} (h : call.pattern? = some p) :
    compilePattern p.source = .ok p := by
  cases call with
  | template text => cases h
  | pattern source =>
      rw [Call.pattern?] at h
      cases hp : compilePattern source with
      | error fault => simp [hp, Except.toOption] at h
      | ok q =>
          simp only [hp, Except.toOption, Option.some.injEq] at h
          rw [← h, source_of_compilePattern hp, hp]

/-- What was added pattern by pattern is what whole lists give. -/
lemma ofLists_source (hps : ∀ p ∈ ps, compilePattern p.source = .ok p) (rs : List String) :
    ofLists (ps.map (·.source)) rs = .ok ⟨ps, rs⟩ := by
  have hall : (ps.map (·.source)).mapM compilePattern = .ok ps := by
    induction ps with
    | nil => rfl
    | cons p ps ih =>
        obtain ⟨hp, hps⟩ := List.forall_mem_cons.mp hps
        rw [List.map_cons, List.mapM_cons, hp, ih hps]
        rfl
  rw [ofLists_eq, hall]
  rfl

/-! ## Applying -/

/-- The template of the pattern at an index: the one at the same index, but the last one if there
are too few. -/
lemma templateAt_eq (s : Substitution) (index : Nat) :
    s.templateAt index = (s.templates[min index (s.templates.length - 1)]?).getD "" := by
  rw [templateAt]
  by_cases hindex : index < s.templates.length
  · rw [Nat.min_eq_left (by omega), List.getElem?_eq_getElem hindex, Option.some_or]
  · rw [Nat.min_eq_right (by omega), List.getElem?_eq_none (by omega), Option.none_or,
      List.getLast?_eq_getElem?]

/-- What the patterns, one after the other, make of a text.  Each replaces all its matches in what
the one before it left, by what the template at its index gives for them, or the last template if
there are fewer, or by nothing if there are none. -/
def chained (ps : List Pattern) (rs : List String) (text : String) : String :=
  ps.zipIdx.foldl (fun text (p, index) => p.replaceAll (fun groups =>
    match rs[min index (rs.length - 1)]? with
    | some template => Template.expand groups template.toList
    | none => []) text) text

lemma applyFrom_eq (s : Substitution) (index : Nat) (ps : List Pattern) (text : String) :
    s.applyFrom index ps text = (ps.zipIdx index).foldl
      (fun text (p, index) => replaceByTemplate p (s.templateAt index) text) text := by
  induction ps generalizing index text with
  | nil => rfl
  | cons p ps ih => rw [applyFrom, ih, List.zipIdx_cons, List.foldl_cons]

lemma apply_eq_chained (s : Substitution) (text : String) :
    s.apply text = chained s.patterns s.templates text := by
  have hfill (index : Nat) : Template.fill (s.templateAt index).toList = fun groups =>
      match s.templates[min index (s.templates.length - 1)]? with
      | some template => Template.expand groups template.toList
      | none => [] := by
    funext groups
    rw [Template.fill_eq, templateAt_eq]
    cases s.templates[min index (s.templates.length - 1)]? <;> rfl
  rw [apply, applyFrom_eq, chained]
  simp only [replaceByTemplate, hfill]

/-- What the patterns make of a value: without any, none is worked on, and otherwise those with a
text are. -/
def sequential (ps : List Pattern) (rs : List String) (value : Json) : Except Fault Json :=
  match ps, value with
  | [], _ => .error (.setup .noPattern)
  | _ :: _, .string text => .ok (.string (chained ps rs text))
  | _ :: _, .number n => .ok (.string (chained ps rs n.text))
  | _ :: _, .bool true => .ok (.string (chained ps rs "true"))
  | _ :: _, .bool false => .ok (.string (chained ps rs "false"))
  | _ :: _, .null => .error (.input (.noScalar filterName "null"))
  | _ :: _, .array _ => .error (.input (.noScalar filterName "array"))
  | _ :: _, .object _ => .error (.input (.noScalar filterName "object"))

lemma run_toFilter (s : Substitution) (value : Json) :
    s.toFilter.run value = sequential s.patterns s.templates value := by
  obtain ⟨ps, rs⟩ := s
  cases ps with
  | nil => rfl
  | cons p ps =>
      cases value with
      | null | array | object => rfl
      | string text => exact congrArg (Except.ok ∘ Json.string) (apply_eq_chained _ text)
      | number n => exact congrArg (Except.ok ∘ Json.string) (apply_eq_chained _ n.text)
      | bool b => cases b <;> exact congrArg (Except.ok ∘ Json.string) (apply_eq_chained _ _)

/-! ## Templates that count -/

/-- Only the templates at the places of patterns count. -/
lemma toFilter_congr (hps : s.patterns = s'.patterns)
    (h : ∀ index < s.patterns.length, s.templateAt index = s'.templateAt index) :
    s.toFilter = s'.toFilter := by
  have hfrom : ∀ (ps : List Pattern) (index : Nat) (text : String),
      (∀ i, index ≤ i → i < index + ps.length → s.templateAt i = s'.templateAt i) →
        s.applyFrom index ps text = s'.applyFrom index ps text := by
    intro ps
    induction ps with
    | nil => intros; rfl
    | cons p ps ih =>
        intro index text h
        rw [applyFrom, applyFrom, h index (Nat.le_refl _) (by simp)]
        exact ih _ _ fun i hle hlt => h i (by omega) (by simp; omega)
  have happly : s.apply = s'.apply := by
    funext text
    rw [apply, apply, ← hps]
    exact hfrom s.patterns 0 text fun i _ hlt => h i (by simpa using hlt)
  rw [toFilter, toFilter, hps, happly]

/-- Templates without a pattern have no effect. -/
lemma toFilter_take (ps : List Pattern) (rs : List String) :
    toFilter ⟨ps, rs.take ps.length⟩ = toFilter ⟨ps, rs⟩ := by
  by_cases hfew : rs.length ≤ ps.length
  · rw [List.take_of_length_le hfew]
  · refine toFilter_congr rfl fun index hindex => ?_
    have hindex : index < ps.length := hindex
    have htaken : (rs.take ps.length)[index]? = some rs[index] := by
      rw [List.getElem?_take_of_lt hindex, List.getElem?_eq_getElem]
    rw [templateAt, templateAt, htaken, List.getElem?_eq_getElem, Option.some_or, Option.some_or]

/-- The last template might as well be there for each of the patterns that it is reused for. -/
lemma toFilter_append_replicate (ps : List Pattern) (rs : List String) (n : Nat) :
    toFilter ⟨ps, rs ++ List.replicate n (rs.getLastD "")⟩ = toFilter ⟨ps, rs⟩ := by
  refine toFilter_congr rfl fun index hindex => ?_
  rw [templateAt, templateAt]
  by_cases hindex : index < rs.length
  · rw [List.getElem?_append_left hindex, List.getElem?_eq_getElem hindex]
    simp
  · rw [List.getElem?_append_right (by omega), List.getElem?_eq_none (l := rs) (by omega),
      Option.none_or, ← List.getLastD_eq_getLast?, List.getElem?_replicate]
    cases n with
    | zero => simp
    | succ n =>
        -- it is a copy, or the last one, which is a copy too
        have hend : (rs ++ List.replicate (n + 1) (rs.getLastD "")).getLast?
            = some (rs.getLastD "") := by
          rw [List.getLast?_append, List.getLast?_replicate, if_neg (by omega), Option.some_or]
        rw [hend]
        split_ifs <;> rfl

/-- **A substitution is its patterns one after the other, however it was set up.** -/
theorem built_sequential (calls : List Call) :
    let ps := calls.filterMap Call.pattern?
    let rs := calls.filterMap Call.template?
    (∀ value, (built calls).toFilter.run value = sequential ps rs value)
      ∧ ofLists (ps.map (·.source)) rs = .ok (built calls)
      ∧ toFilter ⟨ps, rs.take ps.length⟩ = (built calls).toFilter
      ∧ ∀ n, toFilter ⟨ps, rs ++ List.replicate n (rs.getLastD "")⟩ = (built calls).toFilter := by
  intro ps rs
  rw [built_eq]
  have hps : ∀ p ∈ ps, compilePattern p.source = .ok p := by
    intro p hp
    obtain ⟨call, -, hcall⟩ := List.mem_filterMap.mp hp
    exact compilePattern_source hcall
  exact ⟨run_toFilter _, ofLists_source hps rs, toFilter_take ps rs,
    toFilter_append_replicate ps rs⟩

/-- The second pattern does not compile and takes no template; the last template is used twice. -/
example : (built [.template "<$0>", .pattern "b+", .pattern "(", .template "-", .pattern "a",
    .pattern "<"]).apply "abba" = "--bb>-" := by decide +kernel

end Placeholders.Substitution
