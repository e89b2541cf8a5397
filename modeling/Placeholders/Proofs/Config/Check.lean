import Mathlib.Data.List.Induction
import Placeholders.Proofs.Config.Build

/-!
# Checking a configuration

The check goes through a configuration once.  It carries along the specs that have a fixed text, and
it looks at no more of a binding than it has to.  What a configuration should be like is said here
without any of that: of the configuration as a whole, and of each place in it by itself.

* `Blank` — keys of which nothing is left; `fixedSpec?` — the spec that a binding gives a fixed text.
* `WellFormed` — what a configuration should be like.
* `Unusable`, `Wrong`, `WrongAt` — what is wrong with a substitution, with a binding behind others,
  and at a place of a configuration.
* `wellFormed_iff` — a configuration is well-formed just if nothing is wrong at any place.
* `Taken` — the invariant of the loop; `mem_bindingProblems_iff` — a binding is told what is wrong
  with it; `exists_rulesReport` — so are several in a row.
* **`check_eq_ok_iff_wellFormed`** — the check accepts just the well-formed configurations, and of
  the others it tells all that is wrong, place by place.
-/

namespace Placeholders.Config

open Resolver (HasMarker)

/-! ## Well-formed configurations -/

/-- The key consists of markers: one of the identifier, if it is there, and then any of those that no
spec begins with. -/
def Blank (identifier key : String) : Prop :=
  ∃ markers : List Char, (∀ c ∈ markers, isMarker c)
    ∧ (key.toList = markers ∨ ∃ m ∈ identifier.toList.head?, key.toList = m :: markers)

/-- The spec that a binding gives a fixed text: a text stands under a key without the marker. -/
def fixedSpec? (identifier : String) (b : BindingConfig) : Option String :=
  match b.value with
  | .text _ => if HasMarker identifier b.key then none else some (normalizeSpec b.key)
  | .filters _ => none

/-- What a configuration should be like. -/
structure WellFormed (c : Config) : Prop where
  target : c.target ≠ ""
  identifier : c.identifier ≠ ""
  keys : ∀ b ∈ c.rules, ¬ Blank c.identifier b.key
  /-- chains have filters, and they stand under keys with the marker -/
  chains : ∀ b ∈ c.rules, ∀ chain, b.value = .filters chain →
    chain ≠ [] ∧ HasMarker c.identifier b.key
  /-- substitutions have patterns, and all of them compile -/
  substitutions : ∀ b ∈ c.rules, ∀ chain, b.value = .filters chain →
    ∀ options, .substitution options ∈ chain →
      options.patterns ≠ [] ∧ ∀ p ∈ options.patterns, (compilePattern p).isOk
  /-- no spec is given a fixed text twice -/
  texts : (c.rules.filterMap (fixedSpec? c.identifier)).Nodup

/-! ## What is wrong, and where -/

/-- What is wrong with a substitution under a key. -/
inductive Unusable (key : String) (options : SubstitutionConfig) : Problem → Prop where
  | noPattern (hnone : options.patterns = []) : Unusable key options (.noPattern key)
  | badPattern {p : String} {fault : Fault} (hmem : p ∈ options.patterns)
      (hcompile : compilePattern p = .error fault) : Unusable key options (.badPattern key fault)

/-- What is wrong with a binding behind others.  Under a blank key nothing else counts, and in a
chain under a key without the marker nothing else does. -/
inductive Wrong (identifier : String) (before : List BindingConfig) (b : BindingConfig) :
    Problem → Prop where
  | blank (hkey : Blank identifier b.key) : Wrong identifier before b (.emptyKey b.key)
  | repeated {spec : String} (hkey : ¬ Blank identifier b.key)
      (hspec : fixedSpec? identifier b = some spec)
      (hbefore : spec ∈ before.filterMap (fixedSpec? identifier)) :
      Wrong identifier before b (.repeatedStatic spec)
  | unmarked {chain : List FilterConfig} (hkey : ¬ Blank identifier b.key)
      (hvalue : b.value = .filters chain) (hmarker : ¬ HasMarker identifier b.key) :
      Wrong identifier before b (.staticChain b.key identifier)
  | unfilled (hkey : ¬ Blank identifier b.key) (hvalue : b.value = .filters [])
      (hmarker : HasMarker identifier b.key) : Wrong identifier before b (.emptyChain b.key)
  | unusable {chain : List FilterConfig} {options : SubstitutionConfig} {p : Problem}
      (hkey : ¬ Blank identifier b.key) (hvalue : b.value = .filters chain)
      (hmarker : HasMarker identifier b.key) (hmem : .substitution options ∈ chain)
      (hunusable : Unusable b.key options p) : Wrong identifier before b p

/-- A place in a configuration. -/
inductive Place where
  | target
  | identifier
  | binding (i : Nat)

/-- The order in which the places follow each other. -/
def Place.rank : Place → Nat
  | .target => 0
  | .identifier => 1
  | .binding i => i + 2

/-- What is wrong at a place. -/
def WrongAt (c : Config) : Place → Problem → Prop
  | .target, p => c.target = "" ∧ p = .emptyTarget
  | .identifier, p => c.identifier = "" ∧ p = .emptyIdentifier
  | .binding i, p => ∃ before b after, c.rules = before ++ b :: after ∧ before.length = i
      ∧ Wrong c.identifier before b p

/-- A report takes the places in order, and at each place it tells just what is wrong there. -/
structure Tells (report : List (Place × Problem)) (wrong : Place → Problem → Prop) : Prop where
  sorted : report.Pairwise fun x y => x.1.rank ≤ y.1.rank
  mem_iff : ∀ place p, (place, p) ∈ report ↔ wrong place p

/-- The problems are those of a report on the whole configuration. -/
def Reported (c : Config) (problems : List Problem) : Prop :=
  ∃ report : List (Place × Problem), report.map Prod.snd = problems ∧ Tells report c.WrongAt

/-- Elements give different values if none of them gives one that an element before it gives. -/
lemma nodup_filterMap_iff {α β : Type} {f : α → Option β} : ∀ {xs : List α},
    (xs.filterMap f).Nodup
      ↔ ∀ before x after, xs = before ++ x :: after →
        ∀ y, f x = some y → y ∉ before.filterMap f := by
  intro xs
  constructor
  · rintro hnodup before x after rfl y hy hmem
    rw [List.filterMap_append, List.filterMap_cons_some hy] at hnodup
    exact (List.nodup_append.mp hnodup).2.2 y hmem y (List.mem_cons_self ..) rfl
  · intro h
    induction xs using List.reverseRecOn with
    | nil => exact List.nodup_nil
    | append_singleton xs x ih =>
        have hxs : (xs.filterMap f).Nodup := by
          refine ih fun before x' after heq => h before x' (after ++ [x]) ?_
          rw [heq, List.append_assoc, List.cons_append]
        rw [List.filterMap_append]
        cases hx : f x with
        | none => rwa [List.filterMap_cons_none hx, List.filterMap_nil, List.append_nil]
        | some y =>
            rw [List.filterMap_cons_some hx, List.filterMap_nil]
            refine List.nodup_append.mpr ⟨hxs, List.nodup_singleton y, fun y' hy' z hz => ?_⟩
            rw [List.mem_singleton.mp hz]
            rintro rfl
            exact h xs x [] rfl y' hx hy'

lemma WellFormed.not_wrongAt {c : Config} (h : c.WellFormed) (place : Place) (p : Problem) :
    ¬ c.WrongAt place p := by
  intro hwrong
  match place with
  | .target => exact h.target hwrong.1
  | .identifier => exact h.identifier hwrong.1
  | .binding i =>
      obtain ⟨before, b, after, hrules, -, hwrong⟩ := hwrong
      have hb : b ∈ c.rules := hrules ▸ List.mem_append_right _ (List.mem_cons_self ..)
      cases hwrong with
      | blank hkey => exact h.keys b hb hkey
      | repeated _ hspec hbefore =>
          exact nodup_filterMap_iff.mp h.texts before b after hrules _ hspec hbefore
      | unmarked _ hvalue hmarker => exact hmarker (h.chains b hb _ hvalue).2
      | unfilled _ hvalue _ => exact (h.chains b hb _ hvalue).1 rfl
      | unusable _ hvalue _ hmem hunusable =>
          obtain ⟨hpatterns, hcompile⟩ := h.substitutions b hb _ hvalue _ hmem
          cases hunusable with
          | noPattern hnone => exact hpatterns hnone
          | badPattern hp hfault =>
              have hok := hcompile _ hp
              rw [hfault] at hok
              cases hok

lemma wellFormed_of_not_wrongAt {c : Config} (h : ∀ place p, ¬ c.WrongAt place p) :
    c.WellFormed := by
  have hwrong {before b after p} (hrules : c.rules = before ++ b :: after) :
      ¬ Wrong c.identifier before b p :=
    fun hwrong => h (.binding before.length) p ⟨before, b, after, hrules, rfl, hwrong⟩
  have hkeys : ∀ b ∈ c.rules, ¬ Blank c.identifier b.key := by
    intro b hb hkey
    obtain ⟨before, after, hrules⟩ := List.append_of_mem hb
    exact hwrong hrules (.blank hkey)
  have hmarker : ∀ b ∈ c.rules, ∀ chain, b.value = .filters chain →
      HasMarker c.identifier b.key := by
    intro b hb chain hvalue
    obtain ⟨before, after, hrules⟩ := List.append_of_mem hb
    exact by_contra fun hnot => hwrong hrules (.unmarked (hkeys b hb) hvalue hnot)
  refine ⟨fun hempty => h .target .emptyTarget ⟨hempty, rfl⟩,
    fun hempty => h .identifier .emptyIdentifier ⟨hempty, rfl⟩, hkeys, ?chains, ?substitutions,
    ?texts⟩
  case chains =>
    intro b hb chain hvalue
    obtain ⟨before, after, hrules⟩ := List.append_of_mem hb
    refine ⟨?_, hmarker b hb chain hvalue⟩
    rintro rfl
    exact hwrong hrules (.unfilled (hkeys b hb) hvalue (hmarker b hb [] hvalue))
  case substitutions =>
    intro b hb chain hvalue options hoptions
    obtain ⟨before, after, hrules⟩ := List.append_of_mem hb
    have husable (p : Problem) : ¬ Unusable b.key options p := fun hunusable =>
      hwrong hrules
        (.unusable (hkeys b hb) hvalue (hmarker b hb chain hvalue) hoptions hunusable)
    refine ⟨fun hnone => husable _ (.noPattern hnone), fun p hp => ?_⟩
    cases hcompile : compilePattern p with
    | ok _ => rfl
    | error fault => exact absurd (.badPattern hp hcompile) (husable _)
  case texts =>
    refine nodup_filterMap_iff.mpr fun before b after hrules spec hspec hbefore => ?_
    have hb : b ∈ c.rules := hrules ▸ List.mem_append_right _ (List.mem_cons_self ..)
    exact hwrong hrules (.repeated (hkeys b hb) hspec hbefore)

/-- **A configuration is well-formed just if nothing is wrong at any place.** -/
theorem wellFormed_iff (c : Config) : c.WellFormed ↔ ∀ place p, ¬ c.WrongAt place p :=
  ⟨WellFormed.not_wrongAt, wellFormed_of_not_wrongAt⟩

/-! ## Keys -/

lemma normalizeSpec_eq_empty_iff (key : String) :
    normalizeSpec key = "" ↔ ∀ c ∈ key.toList, isMarker c := by
  rw [normalizeSpec, ← String.toList_eq_nil_iff, String.toList_ofList, List.dropWhile_eq_nil_iff]

lemma isDynamicKey_eq_false {identifier key : String} (h : ¬ HasMarker identifier key) :
    isDynamicKey identifier key = false :=
  Bool.eq_false_iff.mpr (mt (isDynamicKey_iff ..).mp h)

/-- Under a key with the marker the rest of the key is the spec. -/
lemma specOf_of_hasMarker {identifier key : String} {m : Char} {rest : List Char}
    (h : HasMarker identifier key) (hkey : key.toList = m :: rest) :
    specOf identifier key = normalizeSpec (String.ofList rest) := by
  rw [specOf, if_pos ((isDynamicKey_iff ..).mpr h), hkey, List.tail_cons]

lemma specOf_of_not_hasMarker {identifier key : String} (h : ¬ HasMarker identifier key) :
    specOf identifier key = normalizeSpec key := by
  rw [specOf, isDynamicKey_eq_false h]
  rfl

/-- A key is blank just if there is no spec in it. -/
lemma blank_iff (identifier key : String) : Blank identifier key ↔ specOf identifier key = "" := by
  by_cases hmarker : HasMarker identifier key
  · obtain ⟨m, hm, hhead⟩ := id hmarker
    obtain ⟨rest, hrest⟩ := List.head?_eq_some_iff.mp hhead
    rw [specOf_of_hasMarker hmarker hrest, normalizeSpec_eq_empty_iff, String.toList_ofList]
    constructor
    · rintro ⟨markers, hall, hkey | ⟨m', -, hkey⟩⟩
      · exact fun c hc => hall c (hkey ▸ hrest ▸ List.mem_cons_of_mem m hc)
      · rw [hrest] at hkey
        exact (List.cons.inj hkey).2 ▸ hall
    · exact fun hall => ⟨rest, hall, .inr ⟨m, hm, hrest⟩⟩
  · rw [specOf_of_not_hasMarker hmarker, normalizeSpec_eq_empty_iff]
    constructor
    · rintro ⟨markers, hall, rfl | ⟨m, hm, hkey⟩⟩
      · exact hall
      · exact absurd ⟨m, hm, hkey ▸ rfl⟩ hmarker
    · exact fun hall => ⟨key.toList, hall, .inl rfl⟩

instance (identifier key : String) : Decidable (Blank identifier key) :=
  decidable_of_iff _ (blank_iff identifier key).symm

/-! ## One binding -/

lemma mem_substitutionProblems_iff {key : String} {options : SubstitutionConfig} {p : Problem} :
    p ∈ substitutionProblems key options ↔ Unusable key options p := by
  rw [substitutionProblems, List.mem_append, List.mem_filterMap]
  constructor
  · rintro (hnone | ⟨pattern, hpattern, hfault⟩)
    · split_ifs at hnone with hempty
      · rw [List.mem_singleton.mp hnone]
        exact .noPattern (List.isEmpty_iff.mp hempty)
      · cases hnone
    · cases hcompile : compilePattern pattern with
      | ok _ => rw [hcompile] at hfault; cases hfault
      | error fault =>
          rw [hcompile] at hfault
          exact Option.some.inj hfault ▸ .badPattern hpattern hcompile
  · rintro (hnone | ⟨hpattern, hcompile⟩)
    · exact .inl (by rw [if_pos (List.isEmpty_iff.mpr hnone)]; exact List.mem_singleton_self _)
    · exact .inr ⟨_, hpattern, by rw [hcompile]⟩

lemma mem_flatMap_filterProblems_iff {key : String} {chain : List FilterConfig} {p : Problem} :
    p ∈ chain.flatMap (filterProblems key)
      ↔ ∃ options, .substitution options ∈ chain ∧ Unusable key options p := by
  rw [List.mem_flatMap]
  constructor
  · rintro ⟨filter, hfilter, hp⟩
    cases filter with
    | named name => cases hp
    | substitution options => exact ⟨options, hfilter, mem_substitutionProblems_iff.mp hp⟩
  · rintro ⟨options, hoptions, hp⟩
    exact ⟨_, hoptions, mem_substitutionProblems_iff.mpr hp⟩

/-- The specs that the loop carries along are those with a fixed text.  It leaves out the spec of
blank keys, which is none. -/
def Taken (identifier : String) (before : List BindingConfig) (taken : List String) : Prop :=
  ∀ spec, spec ≠ "" → (spec ∈ taken ↔ spec ∈ before.filterMap (fixedSpec? identifier))

section Binding

variable {identifier : String} {before : List BindingConfig} {taken : List String}
  {b : BindingConfig} {p : Problem}

/-- A binding that gives a fixed text to a spec gives it to the spec of its key. -/
lemma fixedSpec?_eq_some_iff {spec : String} :
    fixedSpec? identifier b = some spec
      ↔ (∃ text, b.value = .text text) ∧ ¬ HasMarker identifier b.key
        ∧ specOf identifier b.key = spec := by
  rw [fixedSpec?]
  cases b.value with
  | filters chain => simp
  | text text =>
      by_cases hmarker : HasMarker identifier b.key
      · simp [hmarker]
      · simp [hmarker, specOf_of_not_hasMarker hmarker]

lemma takenAfter_eq (identifier : String) (taken : List String) (b : BindingConfig) :
    takenAfter identifier taken b
      = ((fixedSpec? identifier b).filter fun spec => !spec.isEmpty).toList ++ taken := by
  rw [takenAfter, fixedSpec?]
  cases b.value with
  | filters chain => rfl
  | text text =>
      by_cases hmarker : HasMarker identifier b.key
      · rw [(isDynamicKey_iff ..).mpr hmarker, if_pos hmarker]
        rfl
      · rw [isDynamicKey_eq_false hmarker, if_neg hmarker,
          specOf_of_not_hasMarker hmarker]
        cases hempty : (normalizeSpec b.key).isEmpty <;> simp [Option.filter, hempty]

/-- One more binding keeps the invariant. -/
lemma Taken.takenAfter (h : Taken identifier before taken) (b : BindingConfig) :
    Taken identifier (before ++ [b]) (takenAfter identifier taken b) := by
  intro spec hspec
  rw [takenAfter_eq, List.mem_append, List.filterMap_append, List.mem_append, h spec hspec,
    or_comm, Option.mem_toList]
  refine or_congr_right ?_
  cases hfixed : fixedSpec? identifier b with
  | none => simp [hfixed]
  | some fixed =>
      rw [List.filterMap_cons_some hfixed, List.filterMap_nil, List.mem_singleton,
        Option.filter_eq_some_iff, Option.some.injEq, eq_comm]
      exact and_iff_left_of_imp fun heq => by simpa [heq, String.isEmpty_iff] using hspec

/-- Nothing is wrong with a text under a key that is not blank, unless its spec has one already. -/
lemma wrong_text_iff {text : String} (hkey : ¬ Blank identifier b.key)
    (hvalue : b.value = .text text) :
    Wrong identifier before b p
      ↔ ∃ spec, fixedSpec? identifier b = some spec
        ∧ spec ∈ before.filterMap (fixedSpec? identifier) ∧ p = .repeatedStatic spec := by
  constructor
  · intro hwrong
    cases hwrong with
    | blank hblank => exact absurd hblank hkey
    | repeated _ hspec hbefore => exact ⟨_, hspec, hbefore, rfl⟩
    | unmarked _ hchain | unfilled _ hchain | unusable _ hchain =>
        rw [hvalue] at hchain
        cases hchain
  · rintro ⟨spec, hspec, hbefore, rfl⟩
    exact .repeated hkey hspec hbefore

/-- What is wrong with a chain under a key that is not blank. -/
lemma wrong_filters_iff {chain : List FilterConfig} (hkey : ¬ Blank identifier b.key)
    (hvalue : b.value = .filters chain) :
    Wrong identifier before b p
      ↔ if HasMarker identifier b.key then
          chain = [] ∧ p = .emptyChain b.key
            ∨ ∃ options, .substitution options ∈ chain ∧ Unusable b.key options p
        else p = .staticChain b.key identifier := by
  constructor
  · intro hwrong
    cases hwrong with
    | blank hblank => exact absurd hblank hkey
    | repeated _ hspec _ =>
        obtain ⟨⟨text, htext⟩, -⟩ := fixedSpec?_eq_some_iff.mp hspec
        rw [hvalue] at htext
        cases htext
    | unmarked _ _ hmarker => rw [if_neg hmarker]
    | unfilled _ hchain hmarker =>
        rw [if_pos hmarker]
        exact .inl ⟨ValueConfig.filters.inj (hvalue.symm.trans hchain), rfl⟩
    | unusable _ hchain hmarker hmem hunusable =>
        obtain rfl := ValueConfig.filters.inj (hvalue.symm.trans hchain)
        rw [if_pos hmarker]
        exact .inr ⟨_, hmem, hunusable⟩
  · intro h
    split_ifs at h with hmarker
    · rcases h with ⟨rfl, rfl⟩ | ⟨options, hmem, hunusable⟩
      · exact .unfilled hkey hvalue hmarker
      · exact .unusable hkey hvalue hmarker hmem hunusable
    · subst h
      exact .unmarked hkey hvalue hmarker

/-- **A binding is told just what is wrong with it.** -/
theorem mem_bindingProblems_iff (h : Taken identifier before taken) :
    p ∈ bindingProblems identifier taken b ↔ Wrong identifier before b p := by
  rw [bindingProblems]
  by_cases hkey : Blank identifier b.key
  · rw [if_pos (String.isEmpty_iff.mpr ((blank_iff ..).mp hkey)), List.mem_singleton]
    constructor
    · rintro rfl
      exact .blank hkey
    · intro hwrong
      cases hwrong with
      | blank _ => rfl
      | repeated hnot | unmarked hnot | unfilled hnot | unusable hnot => exact absurd hkey hnot
  · have hspec : specOf identifier b.key ≠ "" := mt (blank_iff ..).mpr hkey
    rw [if_neg (mt String.isEmpty_iff.mp hspec)]
    cases hvalue : b.value with
    | text text =>
        rw [wrong_text_iff hkey hvalue]
        by_cases hmarker : HasMarker identifier b.key
        · rw [(isDynamicKey_iff ..).mpr hmarker]
          refine iff_of_false List.not_mem_nil ?_
          rintro ⟨spec, hfixed, -⟩
          exact (fixedSpec?_eq_some_iff.mp hfixed).2.1 hmarker
        · have hfixed : fixedSpec? identifier b = some (specOf identifier b.key) :=
            fixedSpec?_eq_some_iff.mpr ⟨⟨text, hvalue⟩, hmarker, rfl⟩
          rw [isDynamicKey_eq_false hmarker]
          simp only [List.contains_iff_mem, h _ hspec, hfixed, Option.some.injEq]
          split_ifs with hbefore
          · simp [hbefore]
          · simp [hbefore]
    | filters chain =>
        rw [wrong_filters_iff hkey hvalue]
        by_cases hmarker : HasMarker identifier b.key
        · rw [(isDynamicKey_iff ..).mpr hmarker, if_pos hmarker]
          dsimp only
          rw [List.mem_append, mem_flatMap_filterProblems_iff]
          refine or_congr_left ?_
          cases chain <;> simp
        · rw [isDynamicKey_eq_false hmarker, if_neg hmarker]
          exact List.mem_singleton

end Binding

/-! ## Reports -/

/-- A report on a single place. -/
lemma tells_map (place : Place) {problems : List Problem} {wrong : Problem → Prop}
    (h : ∀ p, p ∈ problems ↔ wrong p) :
    Tells (problems.map (Prod.mk place)) fun place' p => place' = place ∧ wrong p where
  sorted := List.pairwise_map.mpr (List.pairwise_of_forall fun _ _ => Nat.le_refl _)
  mem_iff := by
    intro place' p
    rw [List.mem_map, ← h]
    constructor
    · rintro ⟨p', hp', heq⟩
      obtain ⟨rfl, rfl⟩ := Prod.mk.inj heq
      exact ⟨rfl, hp'⟩
    · rintro ⟨rfl, hp⟩
      exact ⟨p, hp, rfl⟩

/-- A report on some places, and one on later places behind it. -/
lemma Tells.append {report later : List (Place × Problem)} {wrong wrong' : Place → Problem → Prop}
    (h : Tells report wrong) (h' : Tells later wrong')
    (hrank : ∀ {place p place' p'}, wrong place p → wrong' place' p' → place.rank ≤ place'.rank) :
    Tells (report ++ later) fun place p => wrong place p ∨ wrong' place p where
  sorted := List.pairwise_append.mpr ⟨h.sorted, h'.sorted, fun x hx y hy =>
    hrank ((h.mem_iff x.1 x.2).mp hx) ((h'.mem_iff y.1 y.2).mp hy)⟩
  mem_iff := fun place p => by rw [List.mem_append, h.mem_iff, h'.mem_iff]

lemma Tells.congr {report : List (Place × Problem)} {wrong wrong' : Place → Problem → Prop}
    (h : Tells report wrong) (heq : ∀ place p, wrong place p ↔ wrong' place p) :
    Tells report wrong' where
  sorted := h.sorted
  mem_iff := fun place p => (h.mem_iff place p).trans (heq place p)

/-- What is wrong at the places of some bindings behind others. -/
def WrongIn (identifier : String) (before bs : List BindingConfig) (place : Place) (p : Problem) :
    Prop :=
  ∃ earlier b after, bs = earlier ++ b :: after
    ∧ place = .binding (before.length + earlier.length) ∧ Wrong identifier (before ++ earlier) b p

lemma wrongIn_cons_iff {identifier : String} {before bs : List BindingConfig} {b : BindingConfig}
    {place : Place} {p : Problem} :
    WrongIn identifier before (b :: bs) place p
      ↔ place = .binding before.length ∧ Wrong identifier before b p
        ∨ WrongIn identifier (before ++ [b]) bs place p := by
  constructor
  · rintro ⟨earlier, b', after, heq, rfl, hwrong⟩
    cases earlier with
    | nil =>
        obtain ⟨rfl, rfl⟩ := List.cons.inj heq
        rw [List.append_nil] at hwrong
        exact .inl ⟨rfl, hwrong⟩
    | cons b'' earlier =>
        obtain ⟨rfl, rfl⟩ := List.cons.inj heq
        refine .inr ⟨earlier, b', after, rfl, ?_, ?_⟩
        · simp only [List.length_append, List.length_cons, List.length_nil]
          congr 1
          omega
        · rwa [List.append_assoc, List.singleton_append]
  · rintro (⟨rfl, hwrong⟩ | ⟨earlier, b', after, rfl, rfl, hwrong⟩)
    · exact ⟨[], b, bs, rfl, rfl, by rwa [List.append_nil]⟩
    · refine ⟨b :: earlier, b', after, rfl, ?_, ?_⟩
      · simp only [List.length_append, List.length_cons, List.length_nil]
        congr 1
        omega
      · rwa [List.append_assoc, List.singleton_append] at hwrong

/-- **Several bindings in a row are told what is wrong with them, one after the other.** -/
theorem exists_rulesReport {identifier : String} : ∀ (bs : List BindingConfig)
    {before : List BindingConfig} {taken : List String}, Taken identifier before taken →
      ∃ report, report.map Prod.snd = rulesProblems identifier taken bs
        ∧ Tells report (WrongIn identifier before bs)
  | [], before, _, _ => by
      refine ⟨[], rfl, .nil, fun place p => iff_of_false List.not_mem_nil ?_⟩
      rintro ⟨earlier, b, after, heq, -⟩
      exact List.append_ne_nil_of_right_ne_nil _ (List.cons_ne_nil _ _) heq.symm
  | b :: bs, before, taken, h => by
      obtain ⟨later, hmap, htells⟩ := exists_rulesReport bs (h.takenAfter b)
      have hhere := tells_map (.binding before.length)
        fun p => mem_bindingProblems_iff (b := b) (p := p) h
      refine ⟨_, ?_, (hhere.append htells ?_).congr fun place p => wrongIn_cons_iff.symm⟩
      · rw [List.map_append, List.map_map, hmap, rulesProblems]
        exact congrArg (· ++ _) (List.map_id _)
      · rintro place p place' p' ⟨rfl, -⟩ ⟨earlier, -, -, -, rfl, -⟩
        simp only [Place.rank, List.length_append]
        omega

/-! ## The whole configuration -/

/-- What is wrong at a place has to do with the target, with the identifier or with a binding. -/
lemma wrongAt_iff (c : Config) (place : Place) (p : Problem) :
    c.WrongAt place p
      ↔ (place = .target ∧ c.target = "" ∧ p = .emptyTarget
        ∨ place = .identifier ∧ c.identifier = "" ∧ p = .emptyIdentifier)
        ∨ WrongIn c.identifier [] c.rules place p := by
  have hin (i : Nat) : WrongIn c.identifier [] c.rules (.binding i) p
      ↔ c.WrongAt (.binding i) p := by
    simp only [WrongIn, WrongAt, List.length_nil, Nat.zero_add, List.nil_append,
      Place.binding.injEq, eq_comm]
  cases place with
  | binding i => rw [← hin]; simp
  | target => simp [WrongAt, WrongIn]
  | identifier => simp [WrongAt, WrongIn]

/-- **The problems of a configuration are a report on it.** -/
theorem reported_problems (c : Config) : c.Reported c.problems := by
  have htaken : Taken c.identifier [] [] := fun _ _ => Iff.rfl
  obtain ⟨later, hmap, hrules⟩ := exists_rulesReport c.rules htaken
  have hsingle (text : String) (problem p : Problem) :
      p ∈ (if text.isEmpty then [problem] else []) ↔ text = "" ∧ p = problem := by
    by_cases hempty : text = ""
    · simp [hempty]
    · simp [hempty]
  have htarget := tells_map .target (hsingle c.target .emptyTarget)
  have hidentifier := tells_map .identifier (hsingle c.identifier .emptyIdentifier)
  refine ⟨_, ?_, ((htarget.append hidentifier ?_).append hrules ?_).congr
    fun place p => (c.wrongAt_iff place p).symm⟩
  · rw [problems, List.map_append, List.map_append, hmap, List.map_map, List.map_map]
    exact congrArg (· ++ _) (congrArg₂ (· ++ ·) (List.map_id _) (List.map_id _))
  · rintro _ _ _ _ ⟨rfl, -⟩ ⟨rfl, -⟩
    exact Nat.zero_le _
  · rintro _ _ _ _ (⟨rfl, -⟩ | ⟨rfl, -⟩) ⟨_, _, _, -, rfl, -⟩
    · exact Nat.zero_le _
    · exact Nat.le_add_left ..

lemma problems_eq_nil_iff (c : Config) : c.problems = [] ↔ c.WellFormed := by
  obtain ⟨report, hmap, htells⟩ := c.reported_problems
  rw [← hmap, List.map_eq_nil_iff, List.eq_nil_iff_forall_not_mem, wellFormed_iff]
  simp only [Prod.forall, htells.mem_iff]

lemma check_of_problems (c : Config) :
    c.check = if c.problems = [] then .ok () else .error c.problems := by
  simp only [check, List.isEmpty_iff]

lemma intercalate_cons_eq_join (separator text : String) (texts : List String) :
    String.intercalate separator (text :: texts)
      = text ++ String.join (texts.map fun later => separator ++ later) := by
  induction texts generalizing text with
  | nil => rw [String.intercalate_singleton, List.map_nil, String.join_nil, String.append_empty]
  | cons later texts ih =>
      rw [String.intercalate_cons_cons, ih, List.map_cons, String.join_cons, String.append_assoc,
        String.append_assoc]

/-- The text of a report is a line with the header, and then the texts of the problems. -/
lemma problemsText_eq (wording : Pattern.Defect → String) (problems : List Problem) :
    problemsText wording problems
      = "Config validation failed:"
        ++ String.join (problems.map fun p => "\n" ++ p.textWith wording) := by
  rw [problemsText, intercalate_cons_eq_join, List.map_map]
  rfl

/-- **The check accepts just the well-formed configurations.**  Of every other one it gives a single
report: under a header stands all that is wrong with the target, with the identifier, and with each
binding in view of those before it, in this order, and nothing else. -/
theorem check_eq_ok_iff_wellFormed (c : Config) :
    (c.check = .ok () ↔ c.WellFormed)
      ∧ (¬ c.WellFormed → ∃ problems, c.check = .error problems ∧ c.Reported problems
        ∧ ∀ wording, problemsText wording problems
          = "Config validation failed:"
            ++ String.join (problems.map fun p => "\n" ++ p.textWith wording)) := by
  rw [check_of_problems, ← problems_eq_nil_iff]
  by_cases hnone : c.problems = []
  · rw [if_pos hnone]
    exact ⟨iff_of_true rfl hnone, absurd hnone⟩
  · rw [if_neg hnone]
    exact ⟨iff_of_false nofun hnone, fun _ => ⟨c.problems, rfl, c.reported_problems,
      fun wording => problemsText_eq wording c.problems⟩⟩

/-- Two keys can come to one spec, and a key with the marker does not count. -/
example :
    problems
        { target := "", identifier := "%"
          rules := [⟨"a", .text "x"⟩, ⟨"%a", .text "lowercase"⟩, ⟨"&a", .text "y"⟩] }
      = [.emptyTarget, .repeatedStatic "a"] := by
  decide +kernel

/-! ## Problems that others hide -/

lemma mem_problems_iff (c : Config) (p : Problem) :
    p ∈ c.problems ↔ ∃ place, c.WrongAt place p := by
  obtain ⟨report, hmap, htells⟩ := c.reported_problems
  rw [← hmap, List.mem_map]
  constructor
  · rintro ⟨⟨place, p⟩, hmem, rfl⟩
    exact ⟨place, (htells.mem_iff place p).mp hmem⟩
  · rintro ⟨place, hwrong⟩
    exact ⟨(place, p), (htells.mem_iff place p).mpr hwrong, rfl⟩

lemma mem_problems_of_wrong {c : Config} {b : BindingConfig} (hb : b ∈ c.rules) {p : Problem}
    (hwrong : ∀ before, Wrong c.identifier before b p) : p ∈ c.problems := by
  obtain ⟨before, after, hrules⟩ := List.append_of_mem hb
  exact (c.mem_problems_iff p).mpr
    ⟨.binding before.length, before, b, after, hrules, rfl, hwrong before⟩

/-- A problem of a substitution names the key, and it is one only under keys of one kind. -/
lemma Wrong.of_unusable {identifier key : String} {before : List BindingConfig} {b : BindingConfig}
    {options : SubstitutionConfig} {p : Problem} (h : Wrong identifier before b p)
    (hp : Unusable key options p) : ¬ Blank identifier key ∧ HasMarker identifier key := by
  cases h with
  | blank | repeated | unmarked | unfilled => cases hp
  | unusable hkey _ hmarker _ hunusable =>
      have hsame : b.key = key := by cases hunusable <;> cases hp <;> rfl
      exact hsame ▸ ⟨hkey, hmarker⟩

/-- **What is wrong with a substitution is told just if its key has the marker and is not blank.**
Nothing else in the configuration makes a difference.  Under other keys the problem of the key is told
in its place. -/
theorem mem_problems_iff_of_unusable {c : Config} {b : BindingConfig} (hb : b ∈ c.rules)
    {chain : List FilterConfig} (hvalue : b.value = .filters chain) {options : SubstitutionConfig}
    (hoptions : .substitution options ∈ chain) {p : Problem} (hp : Unusable b.key options p) :
    ∃ problems, c.check = .error problems
      ∧ (p ∈ problems ↔ ¬ Blank c.identifier b.key ∧ HasMarker c.identifier b.key)
      ∧ (Blank c.identifier b.key → .emptyKey b.key ∈ problems)
      ∧ (¬ Blank c.identifier b.key → ¬ HasMarker c.identifier b.key →
          .staticChain b.key c.identifier ∈ problems) := by
  have hblank (hkey : Blank c.identifier b.key) : .emptyKey b.key ∈ c.problems :=
    mem_problems_of_wrong hb fun _ => .blank hkey
  have hunmarked (hkey : ¬ Blank c.identifier b.key) (hmarker : ¬ HasMarker c.identifier b.key) :
      .staticChain b.key c.identifier ∈ c.problems :=
    mem_problems_of_wrong hb fun _ => .unmarked hkey hvalue hmarker
  have htold : p ∈ c.problems ↔ ¬ Blank c.identifier b.key ∧ HasMarker c.identifier b.key := by
    constructor
    · intro hmem
      obtain ⟨place, hwrong⟩ := (c.mem_problems_iff p).mp hmem
      cases place with
      | target => rw [hwrong.2] at hp; cases hp
      | identifier => rw [hwrong.2] at hp; cases hp
      | binding i =>
          obtain ⟨before, b', after, -, -, hwrong⟩ := hwrong
          exact hwrong.of_unusable hp
    · rintro ⟨hkey, hmarker⟩
      exact mem_problems_of_wrong hb fun _ => .unusable hkey hvalue hmarker hoptions hp
  have hsome : c.problems ≠ [] := by
    by_cases hkey : Blank c.identifier b.key
    · exact List.ne_nil_of_mem (hblank hkey)
    · by_cases hmarker : HasMarker c.identifier b.key
      · exact List.ne_nil_of_mem (htold.mpr ⟨hkey, hmarker⟩)
      · exact List.ne_nil_of_mem (hunmarked hkey hmarker)
  exact ⟨c.problems, by rw [check_of_problems, if_neg hsome], htold, hblank, hunmarked⟩

/-- A configuration with a chain under keys of all kinds. -/
def draft : Config where
  target := ""
  rules :=
    [⟨"plain", .filters [.substitution ⟨["("], []⟩]⟩, ⟨"::", .filters [.substitution ⟨[], []⟩]⟩,
     ⟨":bad", .filters [.named "lowercase", .substitution ⟨["a", "("], []⟩]⟩]

theorem mem_problems_draft :
    (∃ problems, draft.check = .error problems
        ∧ .badPattern ":bad" (.badPattern "(" .malformed) ∈ problems)
      ∧ (∃ problems, draft.check = .error problems
        ∧ .badPattern "plain" (.badPattern "(" .malformed) ∉ problems
        ∧ .staticChain "plain" ":" ∈ problems)
      ∧ ∃ problems, draft.check = .error problems ∧ .noPattern "::" ∉ problems
        ∧ .emptyKey "::" ∈ problems := by
  have hcompile : compilePattern "(" = .error (.badPattern "(" .malformed) := rfl
  obtain ⟨plain, hplain, hhidden, -, hunmarked⟩ :=
    mem_problems_iff_of_unusable (c := draft) (b := draft.rules[0]) (by decide) rfl
      (List.mem_singleton_self _) (.badPattern (List.mem_singleton_self "(") hcompile)
  obtain ⟨blank, hblank, hhidden', hempty, -⟩ :=
    mem_problems_iff_of_unusable (c := draft) (b := draft.rules[1]) (by decide) rfl
      (List.mem_singleton_self _) (.noPattern rfl)
  obtain ⟨bad, hbad, htold, -⟩ :=
    mem_problems_iff_of_unusable (c := draft) (b := draft.rules[2]) (by decide) rfl
      (List.mem_cons_of_mem _ (List.mem_singleton_self _))
      (.badPattern (List.mem_cons_of_mem "a" (List.mem_singleton_self "(")) hcompile)
  refine ⟨⟨bad, hbad, htold.mpr ?_⟩, ⟨plain, hplain, fun hmem => ?_, hunmarked ?_ ?_⟩,
    ⟨blank, hblank, fun hmem => (hhidden'.mp hmem).1 ?_, hempty ?_⟩⟩
  · decide +kernel
  · exact absurd (hhidden.mp hmem).2 (by decide +kernel)
  all_goals decide +kernel

/-- A configuration with a substitution without patterns, under a key without the marker. -/
def sketch : Config where
  target := ":a"
  rules := [⟨"plain", .filters [.substitution ⟨[], []⟩]⟩]

/-- **A problem can hide others**: a chain under a key without the marker is not looked into. -/
theorem not_all_told :
    ¬ ∀ (c : Config) (b : BindingConfig) (chain : List FilterConfig) (options : SubstitutionConfig)
      (p : Problem), b ∈ c.rules → b.value = .filters chain → .substitution options ∈ chain →
      Unusable b.key options p → ∃ problems, c.check = .error problems ∧ p ∈ problems := by
  intro h
  obtain ⟨problems, hcheck, hmem⟩ := h sketch sketch.rules[0] [.substitution ⟨[], []⟩] ⟨[], []⟩
    (.noPattern "plain") (List.mem_singleton_self _) rfl (List.mem_singleton_self _)
    (.noPattern rfl)
  have htold : sketch.check = .error [.staticChain "plain" ":"] := by decide +kernel
  rw [htold] at hcheck
  rw [← Except.error.inj hcheck] at hmem
  exact absurd hmem (by decide)

end Placeholders.Config
