import Placeholders.Config
import Placeholders.Proofs.Filter.Substitution
import Placeholders.Proofs.Resolver.Bulk
import Placeholders.Proofs.Resolver.Session
import Placeholders.Proofs.RuleTable.History

/-!
# Building what was checked

A configuration is checked before it is built, and the check has a reading of keys, filters and
patterns of its own.  What it accepts can be built, up to names of filters: those it cannot know.

* `Accepted` — what the check makes sure of for a binding; `accepted_of_check`.
* `specOf_eq` — checking and building come to the same spec for a key.
* `FilterConfig.ref`, `ValueConfig.binding`, `bindings_eq` — what the descriptions stand for; of
  what the check accepts, everything stands for something.
* `filterNames`, `Catalog.unknown?` — the names of filters that a configuration uses, in order, and
  what is wrong with a name.
* `exists_step`, `build_eq` — a binding is a step of the rules, and building takes all steps unless
  a name is unknown; `target_of_build` needs no check.
* `Describes` — what a resolver has of its configuration.
* **`build_of_check`** — building fails just if a name is unknown, with the first such name, and
  what comes of it else.
-/

namespace Placeholders

/-- What an element of a chain stands for, if all its patterns compile. -/
def FilterConfig.ref : FilterConfig → FilterRef
  | .named name => .named name
  | .substitution options =>
    .live (Substitution.toFilter
      ⟨options.patterns.filterMap fun p => (compilePattern p).toOption, options.replacements⟩)

/-- The name of a filter that is not described in place. -/
def FilterConfig.name? : FilterConfig → Option String
  | .named name => some name
  | .substitution _ => none

/-- What a value stands for. -/
def ValueConfig.binding : ValueConfig → Resolver.Binding
  | .text value => .text value
  | .filters chain => .filters (chain.map FilterConfig.ref)

/-- The fault of a name that a catalogue does not know. -/
def Catalog.unknown? (catalog : Catalog) (name : String) : Option Fault :=
  if catalog.contains name then none else some (.unknownFilter name)

namespace Catalog

variable {catalog : Catalog} {name : String} {fault : Fault}

lemma unknown?_eq_none_iff : catalog.unknown? name = none ↔ catalog.contains name := by
  rw [unknown?]
  split_ifs with h <;> simp [h]

lemma unknown?_eq_some_iff :
    catalog.unknown? name = some fault
      ↔ ¬ catalog.contains name ∧ fault = .unknownFilter name := by
  rw [unknown?]
  split_ifs with h <;> simp [h, eq_comm]

/-- The fault of several names is the one of the first that is unknown. -/
lemma findSome?_unknown?_eq_some_iff {names : List String} :
    names.findSome? catalog.unknown? = some fault
      ↔ ∃ before name after, names = before ++ name :: after
        ∧ (∀ n ∈ before, catalog.contains n) ∧ ¬ catalog.contains name
        ∧ fault = .unknownFilter name := by
  simp only [List.findSome?_eq_some_iff, unknown?_eq_some_iff, unknown?_eq_none_iff]
  refine exists_congr fun before => exists_congr fun name => exists_congr fun after => ?_
  exact and_congr_right fun _ => and_comm

end Catalog

namespace Config

open Resolver (HasMarker)
open RuleTable (Step)

/-! ## What the check makes sure of -/

/-- What the check makes sure of for a binding. -/
structure Accepted (identifier : String) (b : BindingConfig) : Prop where
  /-- something is left of the key without its markers -/
  named : specOf identifier b.key ≠ ""
  /-- a chain stands under a key with the marker, it has a filter, and all its patterns compile -/
  chain : ∀ chain, b.value = .filters chain → HasMarker identifier b.key ∧ chain ≠ []
    ∧ ∀ options, .substitution options ∈ chain → ∀ p ∈ options.patterns, (compilePattern p).isOk

lemma isDynamicKey_iff (identifier key : String) :
    isDynamicKey identifier key = true ↔ HasMarker identifier key := by
  rw [isDynamicKey, HasMarker]
  cases identifier.toList with
  | nil => simp
  | cons m _ =>
      cases key.toList with
      | nil => simp
      | cons c _ => simp

lemma compile_of_substitutionProblems {key : String} {options : SubstitutionConfig}
    (h : substitutionProblems key options = []) :
    ∀ p ∈ options.patterns, (compilePattern p).isOk := by
  intro p hp
  have hnone := List.filterMap_eq_nil_iff.mp (List.append_eq_nil_iff.mp h).2 p hp
  cases hcompile : compilePattern p with
  | ok _ => rfl
  | error fault => rw [hcompile] at hnone; cases hnone

lemma accepted_of_bindingProblems {identifier : String} {taken : List String} {b : BindingConfig}
    (h : bindingProblems identifier taken b = []) : Accepted identifier b := by
  rw [bindingProblems] at h
  by_cases hspec : specOf identifier b.key = ""
  · rw [if_pos (String.isEmpty_iff.mpr hspec)] at h
    cases h
  · rw [if_neg (mt String.isEmpty_iff.mp hspec)] at h
    refine ⟨hspec, fun chain hchain => ?_⟩
    by_cases hkey : HasMarker identifier b.key
    · rw [hchain, (isDynamicKey_iff ..).mpr hkey] at h
      obtain ⟨hempty, hproblems⟩ := List.append_eq_nil_iff.mp h
      refine ⟨hkey, fun hnil => ?_, fun options hoptions => ?_⟩
      · rw [hnil] at hempty
        cases hempty
      · exact compile_of_substitutionProblems (List.flatMap_eq_nil_iff.mp hproblems _ hoptions)
    · rw [hchain, Bool.eq_false_iff.mpr (mt (isDynamicKey_iff ..).mp hkey)] at h
      cases h

/-- Which specs are taken makes no difference to what is made sure of. -/
lemma accepted_of_rulesProblems {identifier : String} : ∀ {bs : List BindingConfig}
    {taken : List String}, rulesProblems identifier taken bs = [] →
      ∀ b ∈ bs, Accepted identifier b
  | [], _, _ => fun _ hb => absurd hb List.not_mem_nil
  | _ :: _, _, h => by
      obtain ⟨hhere, hrest⟩ := List.append_eq_nil_iff.mp h
      exact List.forall_mem_cons.mpr
        ⟨accepted_of_bindingProblems hhere, accepted_of_rulesProblems hrest⟩

lemma accepted_of_check {c : Config} (h : c.check = .ok ()) :
    ∀ b ∈ c.rules, Accepted c.identifier b := by
  have hnone : c.problems = [] := by
    rw [check] at h
    split_ifs at h with hempty
    exact List.isEmpty_iff.mp hempty
  exact accepted_of_rulesProblems (List.append_eq_nil_iff.mp hnone).2

/-! ## Reading keys -/

/-- **Checking and building come to the same spec for a key.** -/
lemma specOf_eq (r : Resolver) (key : String) :
    specOf r.identifier key = normalizeSpec (r.stripMarker key) := by
  have hdynamic : isDynamicKey r.identifier key = r.isDynamicKey key := by
    rw [Bool.eq_iff_iff, isDynamicKey_iff, Resolver.isDynamicKey_iff]
  rw [specOf, hdynamic, Resolver.stripMarker]
  cases hkey : key.toList with
  | cons c rest => rfl
  | nil =>
      obtain rfl := String.toList_eq_nil_iff.mp hkey
      cases r.isDynamicKey "" <;> rfl

/-! ## What descriptions stand for -/

lemma filterRef_eq {f : FilterConfig}
    (h : ∀ options, f = .substitution options → ∀ p ∈ options.patterns, (compilePattern p).isOk) :
    filterRef f = .ok f.ref := by
  cases f with
  | named name => rfl
  | substitution options =>
      rw [filterRef, Substitution.ofLists_of_compile options.replacements (h options rfl)]
      rfl

lemma bindingValue_eq {identifier : String} {b : BindingConfig} (h : Accepted identifier b) :
    bindingValue b.value = .ok b.value.binding := by
  cases hvalue : b.value with
  | text value => rfl
  | filters chain =>
      have hrefs : chain.mapM filterRef = .ok (chain.filterMap (some ∘ FilterConfig.ref)) := by
        refine mapM_eq_ok_filterMap fun f hf => ⟨f.ref, filterRef_eq fun options heq => ?_, rfl⟩
        exact (h.chain chain hvalue).2.2 options (heq ▸ hf)
      rw [bindingValue, hrefs, List.filterMap_eq_map]
      rfl

/-- **What the check accepts stands for bindings.** -/
theorem bindings_eq {c : Config} (h : ∀ b ∈ c.rules, Accepted c.identifier b) :
    c.bindings = .ok (c.rules.map fun b => (b.key, b.value.binding)) := by
  rw [bindings, ← List.filterMap_eq_map]
  refine mapM_eq_ok_filterMap fun b hb => ⟨(b.key, b.value.binding), ?_, rfl⟩
  rw [bindingValue_eq (h b hb)]
  rfl

/-! ## Names -/

/-- The names of filters that a binding uses.  A text under a key with the marker is one. -/
def namesOf (identifier : String) (b : BindingConfig) : List String :=
  match b.value with
  | .text value => if HasMarker identifier b.key then [value] else []
  | .filters chain => chain.filterMap FilterConfig.name?

/-- The names of filters that a configuration uses, in order. -/
def filterNames (c : Config) : List String := c.rules.flatMap (namesOf c.identifier)

/-- Of the elements of a chain only the names can have a fault. -/
lemma findSome?_map_ref (catalog : Catalog) : ∀ chain : List FilterConfig,
    (chain.map FilterConfig.ref).findSome? (FilterRef.fault? catalog)
      = (chain.filterMap FilterConfig.name?).findSome? catalog.unknown?
  | [] => rfl
  | .named name :: chain => by
      have ih := findSome?_map_ref catalog chain
      rw [List.map_cons, List.findSome?_cons, ih]
      rfl
  | .substitution options :: chain => findSome?_map_ref catalog chain

/-! ## Bindings as steps -/

/-- A binding that the check accepts is a step of the rules.  It binds the spec that the check reads
off its key, and nothing can be wrong with it but a name. -/
lemma exists_step {r : Resolver} {b : BindingConfig} (h : Accepted r.identifier b) :
    ∃ s, r.step? (b.key, b.value.binding) = some s ∧ s.spec = specOf r.identifier b.key
      ∧ s.fault? r.rules.catalog
          = (namesOf r.identifier b).findSome? r.rules.catalog.unknown? := by
  rw [specOf_eq, Resolver.step?]
  by_cases hkey : HasMarker r.identifier b.key
  · rw [if_pos ((Resolver.isDynamicKey_iff r b.key).mpr hkey)]
    refine ⟨_, rfl, rfl, ?_⟩
    cases hvalue : b.value with
    | text value =>
        have hnames : namesOf r.identifier b = [value] := by
          simp only [namesOf, hvalue, if_pos hkey]
        rw [hnames]
        rfl
    | filters chain =>
        have hnames : namesOf r.identifier b = chain.filterMap FilterConfig.name? := by
          simp only [namesOf, hvalue]
        rw [hnames, ← findSome?_map_ref]
        obtain ⟨f, chain, rfl⟩ := List.exists_cons_of_ne_nil (h.chain chain hvalue).2.1
        rfl
  · rw [if_neg (mt (Resolver.isDynamicKey_iff r b.key).mp hkey),
      Resolver.stripMarker_of_not_hasMarker hkey]
    cases hvalue : b.value with
    | text value =>
        have hnames : namesOf r.identifier b = [] := by
          simp only [namesOf, hvalue, if_neg hkey]
        rw [hnames]
        exact ⟨.static b.key value, rfl, rfl, rfl⟩
    | filters chain => exact absurd (h.chain chain hvalue).1 hkey

/-- The bindings that the check accepts, as steps. -/
def steps (r : Resolver) (bs : List BindingConfig) : List Step :=
  (bs.map fun b => (b.key, b.value.binding)).filterMap r.step?

section Steps

variable {r : Resolver}

lemma steps_cons {b : BindingConfig} {bs : List BindingConfig} {s : Step}
    (hs : r.step? (b.key, b.value.binding) = some s) : steps r (b :: bs) = s :: steps r bs := by
  rw [steps, List.map_cons, List.filterMap_cons, hs]
  rfl

lemma findSome?_bindingFault? : ∀ {bs : List BindingConfig},
    (∀ b ∈ bs, Accepted r.identifier b) →
      (bs.map fun b => (b.key, b.value.binding)).findSome? r.bindingFault?
        = (bs.flatMap (namesOf r.identifier)).findSome? r.rules.catalog.unknown?
  | [], _ => rfl
  | b :: bs, h => by
      obtain ⟨hb, hbs⟩ := List.forall_mem_cons.mp h
      obtain ⟨s, hs, -, hfault⟩ := exists_step hb
      have hbinding : r.bindingFault? (b.key, b.value.binding)
          = (namesOf r.identifier b).findSome? r.rules.catalog.unknown? := by
        rw [Resolver.bindingFault?, hs]
        exact hfault
      rw [List.map_cons, List.findSome?_cons, List.flatMap_cons, List.findSome?_append,
        findSome?_bindingFault? hbs, hbinding]
      cases (namesOf r.identifier b).findSome? r.rules.catalog.unknown? <;> rfl

lemma map_spec_steps : ∀ {bs : List BindingConfig}, (∀ b ∈ bs, Accepted r.identifier b) →
    (steps r bs).map Step.spec = bs.map fun b => specOf r.identifier b.key
  | [], _ => rfl
  | b :: bs, h => by
      obtain ⟨hb, hbs⟩ := List.forall_mem_cons.mp h
      obtain ⟨s, hs, hspec, -⟩ := exists_step hb
      rw [steps_cons hs, List.map_cons, List.map_cons, map_spec_steps hbs, hspec]

end Steps

/-! ## Building -/

/-- What a resolver has of its configuration. -/
structure Describes (c : Config) (r : Resolver) : Prop where
  target : r.target = c.target
  identifier : r.identifier = c.identifier
  strict : r.strict = c.strict
  /-- one entry for each spec, in the order in which keys first come to it -/
  specs : r.rules.entries.map (·.spec)
    = (c.rules.map fun b => specOf c.identifier b.key).eraseDups
  named : ∀ e ∈ r.rules.entries, e.spec ≠ ""
  filled : ∀ e ∈ r.rules.entries, e.rule ≠ .chain []

/-- The resolver that building starts from. -/
def start (c : Config) (catalog : Catalog) : Resolver :=
  { target := c.target, identifier := c.identifier, strict := c.strict
    rules := { catalog := catalog } }

lemma build_eq_bind (c : Config) (catalog : Catalog) :
    c.build catalog = c.bindings >>= fun bindings =>
      (Resolver.perform (.setRules bindings)).result (start c catalog) := rfl

/-- Building takes all steps unless a name is unknown. -/
lemma build_eq {c : Config} (h : ∀ b ∈ c.rules, Accepted c.identifier b) (catalog : Catalog) :
    c.build catalog
      = match c.filterNames.findSome? catalog.unknown? with
        | some fault => .error fault
        | none => .ok { start c catalog with
            rules := (start c catalog).rules.takeAll (steps (start c catalog) c.rules) } := by
  have hfault := findSome?_bindingFault? (r := start c catalog) h
  rw [build_eq_bind, bindings_eq h]
  refine (Resolver.result_perform (start c catalog) (.setRules _)).trans ?_
  rw [Resolver.editFault?, hfault]
  rfl

lemma target_of_build {c : Config} {catalog : Catalog} {r : Resolver}
    (h : c.build catalog = .ok r) : r.target = c.target := by
  rw [build_eq_bind] at h
  cases hbindings : c.bindings with
  | error fault => rw [hbindings] at h; cases h
  | ok bindings =>
      rw [hbindings] at h
      have hresult := (Resolver.result_perform (start c catalog) (.setRules bindings)).symm.trans h
      split at hresult
      · cases hresult
      · obtain rfl := Except.ok.inj hresult
        rfl

lemma describes_of_steps {c : Config} (h : ∀ b ∈ c.rules, Accepted c.identifier b)
    {catalog : Catalog} (hnames : c.filterNames.findSome? catalog.unknown? = none) :
    Describes c { start c catalog with
      rules := (start c catalog).rules.takeAll (steps (start c catalog) c.rules) } := by
  set r := start c catalog with hr
  have hfaults : ∀ s ∈ steps r c.rules, s.fault? catalog = none :=
    Resolver.fault?_of_mem_steps ((findSome?_bindingFault? (r := r) h).trans hnames)
  have hsound := RuleTable.sound_takeAll (RuleTable.sound_clear r.rules) hfaults
  have htold := RuleTable.toldBy_takeAll (RuleTable.toldBy_clear r.rules) hfaults
  have hspecs : (r.rules.takeAll (steps r c.rules)).entries.map (·.spec)
      = (c.rules.map fun b => specOf c.identifier b.key).eraseDups := by
    have hentries := htold.entries
    rw [List.nil_append] at hentries
    change (r.rules.clear.takeAll (steps r c.rules)).entries.map (·.spec) = _
    rw [hentries, RuleTable.map_spec_told, RuleTable.specsOf, map_spec_steps (r := r) h]
    rfl
  refine ⟨rfl, rfl, rfl, hspecs, fun e he => ?_, hsound.filled⟩
  have hspec := List.mem_map_of_mem (f := (·.spec)) he
  rw [hspecs, List.mem_eraseDups] at hspec
  obtain ⟨b, hb, heq⟩ := List.mem_map.mp hspec
  exact heq ▸ (h b hb).named

/-- **What is accepted can be built, up to names.**  Building succeeds just if all names of filters
are known.  Otherwise it fails with the first one that is unknown, and it fails in no other way.  If
it succeeds, every spec has one entry, in the order in which the file first comes to it, no spec is
empty and no chain is, and target, identifier and policy are those of the configuration. -/
theorem build_of_check (c : Config) (catalog : Catalog) (h : c.check = .ok ()) :
    ((∃ r, c.build catalog = .ok r) ↔ ∀ name ∈ c.filterNames, catalog.contains name)
      ∧ (∀ fault, c.build catalog = .error fault
          ↔ ∃ before name after, c.filterNames = before ++ name :: after
            ∧ (∀ n ∈ before, catalog.contains n) ∧ ¬ catalog.contains name
            ∧ fault = .unknownFilter name)
      ∧ ∀ r, c.build catalog = .ok r → Describes c r := by
  have haccepted := accepted_of_check h
  have hbuild := build_eq haccepted catalog
  refine ⟨?_, fun fault => ?_, fun r hr => ?_⟩
  · rw [hbuild]
    have hknown : (∀ name ∈ c.filterNames, catalog.contains name)
        ↔ c.filterNames.findSome? catalog.unknown? = none := by
      simp only [List.findSome?_eq_none_iff, Catalog.unknown?_eq_none_iff]
    rw [hknown]
    cases c.filterNames.findSome? catalog.unknown? with
    | none => exact iff_of_true ⟨_, rfl⟩ rfl
    | some found => exact iff_of_false nofun nofun
  · rw [← Catalog.findSome?_unknown?_eq_some_iff, hbuild]
    cases c.filterNames.findSome? catalog.unknown? with
    | none => exact iff_of_false nofun nofun
    | some found => simp
  · cases hnames : c.filterNames.findSome? catalog.unknown? with
    | some fault =>
        rw [hbuild, hnames] at hr
        cases hr
    | none =>
        rw [hbuild, hnames] at hr
        obtain rfl := Except.ok.inj hr
        exact describes_of_steps haccepted hnames

/-- A configuration with keys that are spelled in several ways. -/
def paths : Config where
  target := "%name.%ext"
  identifier := "%"
  rules :=
    [⟨"%name", .filters [.named "lowercase", .substitution ⟨["[ -]+", "^_"], ["_", ""]⟩]⟩,
     ⟨"&ext", .text "md"⟩, ⟨"%:name", .text "uppercase"⟩, ⟨"%ext", .filters [.named "reverse"]⟩]

/-- The filters of this library and one more. -/
def withReverse : Catalog :=
  Catalog.builtin.register "reverse"
    { fresh := .onString "reverse" fun text => .ok (String.ofList text.toList.reverse) }

theorem build_paths :
    paths.check = .ok ()
      ∧ paths.build .builtin = .error (.unknownFilter "reverse")
      ∧ ∃ r, paths.build withReverse = .ok r ∧ Describes paths r
        ∧ r.rules.entries.map (·.spec) = ["name", "ext"] := by
  have hcheck : paths.check = .ok () := by decide +kernel
  have hfails := (build_of_check paths .builtin hcheck).2.1 (.unknownFilter "reverse")
  obtain ⟨hbuilds, -, hdescribes⟩ := build_of_check paths withReverse hcheck
  obtain ⟨r, hr⟩ := hbuilds.mpr (by decide +kernel)
  refine ⟨hcheck, hfails.mpr ⟨["lowercase", "uppercase"], "reverse", [], ?_⟩,
    r, hr, hdescribes r hr, (hdescribes r hr).specs.trans ?_⟩
  · decide +kernel
  · decide +kernel

end Config

end Placeholders
