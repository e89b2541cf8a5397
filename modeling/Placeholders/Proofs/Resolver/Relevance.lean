import Placeholders.Proofs.Resolver.Outcome
import Placeholders.Proofs.Resolver.Session

/-!
# What of a source counts

A resolver looks at a source only through the specs that have rules.  Whatever else is in a source,
and however its keys are spelled, makes no difference; and the keys that the user is warned of are
among those that make none.

* `Json.keys`, `Json.Names` — the keys of an object, and whether one of them has a given spec.
* `Json.AgreeFor` — two sources are the same as far as one spec is concerned.
* **`resolve_congr`** — sources that give the same for every spec with a rule have the same outcome.
* `Json.without`, `Json.respell` — a source without some keys, and with its keys spelled
  differently; `gives_without_iff`, `gives_respell_iff` — what they give.
* `isSome_rule?_iff`, `mem_unboundKeys` — the keys that are reported are those whose spec has no
  rule.
* **`resolve_eq_of_agreeFor`** — all of this for every resolver that edits lead to.
-/

namespace Placeholders

namespace Json

/-- The keys of an object. -/
def keys : Json → List String
  | .object fields => fields.map Prod.fst
  | _ => []

/-- Some key has this spec. -/
def Names (source : Json) (spec : String) : Prop := ∃ key ∈ source.keys, normalizeSpec key = spec

instance (source : Json) (spec : String) : Decidable (source.Names spec) :=
  inferInstanceAs (Decidable (∃ key ∈ source.keys, normalizeSpec key = spec))

/-- The sources agree for a spec: neither has a key with this spec, or both give the same value. -/
def AgreeFor (spec : String) (a b : Json) : Prop :=
  ¬ a.Names spec ∧ ¬ b.Names spec ∨ ∃ value, a.Gives spec value ∧ b.Gives spec value

/-- An object without the fields under some keys. -/
def without (keys : List String) : Json → Json
  | .object fields => .object (fields.filter fun field => field.1 ∉ keys)
  | other => other

/-- An object with its keys spelled differently. -/
def respell (rename : String → String) : Json → Json
  | .object fields => .ofFields (fields.map fun field => (rename field.1, field.2))
  | other => other

/-- The second key is the first one with other markers at its front. -/
def Respelled (key key' : String) : Prop :=
  ∃ marks marks' rest : List Char, (∀ c ∈ marks ++ marks', c = ':' ∨ c = '&')
    ∧ key.toList = marks ++ rest ∧ key'.toList = marks' ++ rest

/-! ## What a changed source gives -/

lemma Gives.names {source : Json} {spec value : String} (h : source.Gives spec value) :
    source.Names spec := by
  cases source with
  | object fields =>
      obtain ⟨key, hmem, hkey, -⟩ := h
      exact ⟨key, List.mem_map_of_mem hmem, hkey⟩
  | _ => exact h.elim

/-- Sources that agree for a spec give the same for it. -/
lemma AgreeFor.gives_iff {a b : Json} {spec : String} (h : AgreeFor spec a b) (ha : a.Ordered)
    (hb : b.Ordered) (value : String) : a.Gives spec value ↔ b.Gives spec value := by
  rcases h with ⟨hna, hnb⟩ | ⟨v, hva, hvb⟩
  · exact iff_of_false (fun h => hna h.names) fun h => hnb h.names
  · constructor
    · intro h
      exact h.unique ha hva ▸ hvb
    · intro h
      exact h.unique hb hvb ▸ hva

lemma ordered_without {source : Json} (h : source.Ordered) (keys : List String) :
    (source.without keys).Ordered := by
  cases source with
  | object fields => exact List.Pairwise.filter _ h
  | _ => exact h

lemma holdsStrings_without {source : Json} (h : source.HoldsStrings) (keys : List String) :
    (source.without keys).HoldsStrings := by
  cases source with
  | object fields => exact fun field hfield => h field (List.mem_of_mem_filter hfield)
  | _ => exact h

/-- Keys with other specs are not missed. -/
lemma gives_without_iff {source : Json} {keys : List String} {spec value : String}
    (h : ∀ key ∈ keys, normalizeSpec key ≠ spec) :
    (source.without keys).Gives spec value ↔ source.Gives spec value := by
  cases source with
  | object fields =>
      have hstays (field : String × Json) (hspec : normalizeSpec field.1 = spec) :
          field ∈ fields.filter (fun field => field.1 ∉ keys) ↔ field ∈ fields := by
        have hno : field.1 ∉ keys := fun hmem => h field.1 hmem hspec
        simp [List.mem_filter, hno]
      refine exists_congr fun key => ?_
      constructor
      · rintro ⟨hmem, hkey, hgreatest⟩
        exact ⟨(hstays (key, .string value) hkey).mp hmem, hkey, fun other hother hspec =>
          hgreatest other ((hstays other hspec).mpr hother) hspec⟩
      · rintro ⟨hmem, hkey, hgreatest⟩
        exact ⟨(hstays (key, .string value) hkey).mpr hmem, hkey, fun other hother hspec =>
          hgreatest other ((hstays other hspec).mp hother) hspec⟩
  | _ => exact Iff.rfl

lemma normalizeSpec_of_respelled {key key' : String} (h : Respelled key key') :
    normalizeSpec key' = normalizeSpec key := by
  obtain ⟨marks, marks', rest, hmarks, hkey, hkey'⟩ := h
  have hdrop (ms : List Char) (hms : ∀ c ∈ ms, c = ':' ∨ c = '&') :
      (ms ++ rest).dropWhile isMarker = rest.dropWhile isMarker :=
    List.dropWhile_append_of_pos fun c hc => by simpa [isMarker] using hms c hc
  rw [normalizeSpec, normalizeSpec, hkey, hkey',
    hdrop marks fun c hc => hmarks c (List.mem_append_left _ hc),
    hdrop marks' fun c hc => hmarks c (List.mem_append_right _ hc)]

lemma ordered_respell {source : Json} (h : source.Ordered) (rename : String → String) :
    (source.respell rename).Ordered := by
  cases source with
  | object fields => exact ordered_ofFields _
  | _ => exact h

lemma holdsStrings_respell {source : Json} (h : source.HoldsStrings) (rename : String → String) :
    (source.respell rename).HoldsStrings := by
  cases source with
  | object fields =>
      refine holdsStrings_ofFields fun renamed hrenamed => ?_
      obtain ⟨field, hfield, rfl⟩ := List.mem_map.mp hrenamed
      exact h field hfield
  | _ => exact h

/-- If no spec has two keys, it does not matter how the keys are spelled. -/
lemma gives_respell_iff {source : Json} (hord : source.Ordered) {rename : String → String}
    (hdistinct : ∀ a ∈ source.keys, ∀ b ∈ source.keys, normalizeSpec a = normalizeSpec b → a = b)
    (hrename : ∀ key ∈ source.keys, normalizeSpec (rename key) = normalizeSpec key)
    {spec value : String} : (source.respell rename).Gives spec value ↔ source.Gives spec value := by
  cases source with
  | object fields =>
      have hkey {field : String × Json} (hfield : field ∈ fields) :
          field.1 ∈ (Json.object fields).keys := List.mem_map_of_mem hfield
      have hnodup : ((fields.map Prod.fst).map rename).Nodup := by
        refine List.Nodup.map_on (fun a ha b hb hab => hdistinct a ha b hb ?_)
          (Assoc.nodup_of_ascending hord)
        rw [← hrename a ha, ← hrename b hb, hab]
      rw [respell, gives_ofFields]
      constructor
      · rintro ⟨key, hfound, hspec, -⟩
        obtain ⟨k, hk, rfl⟩ := (Assoc.lookup_rename hnodup).mp hfound
        rw [hrename k (hkey hk)] at hspec
        refine ⟨k, hk, hspec, fun other hother hsame => ?_⟩
        exact (hdistinct other.1 (hkey hother) k (hkey hk) (hsame.trans hspec.symm)).le
      · rintro ⟨k, hk, hspec, -⟩
        refine ⟨rename k, (Assoc.lookup_rename hnodup).mpr ⟨k, hk, rfl⟩,
          (hrename k (hkey hk)).trans hspec, fun other hother hsame => ?_⟩
        obtain ⟨field, hfield, rfl⟩ := List.mem_map.mp hother
        rw [hrename field.1 (hkey hfield)] at hsame
        rw [hdistinct field.1 (hkey hfield) k (hkey hk) (hsame.trans hspec.symm)]
  | _ => exact Iff.rfl

end Json

namespace Resolver

/-! ## The outcome -/

lemma replacement_congr {s s' : Source} {entry : RuleEntry}
    (h : s.value? entry.spec = s'.value? entry.spec) :
    replacement s entry = replacement s' entry := by
  simp only [replacement, h]

lemma queue_congr {s s' : Source} : ∀ {entries : List RuleEntry},
    (∀ entry ∈ entries, s.value? entry.spec = s'.value? entry.spec) →
      queue s entries = queue s' entries
  | [], _ => rfl
  | entry :: rest, h => by
      obtain ⟨hentry, hrest⟩ := List.forall_mem_cons.mp h
      rw [queue, queue, replacement_congr hentry, queue_congr hrest]

/-- **Sources that give the same for every spec with a rule have the same outcome.** -/
theorem resolve_congr (r : Resolver) {a b : Json} (ha : a.Ordered) (hastr : a.HoldsStrings)
    (hb : b.Ordered) (hbstr : b.HoldsStrings)
    (h : ∀ entry ∈ r.rules.entries, ∀ value, a.Gives entry.spec value ↔ b.Gives entry.spec value) :
    r.resolve a = r.resolve b := by
  by_cases hid : r.identifier = ""
  · have hempty : r.identifier.isEmpty = true := String.isEmpty_iff.mpr hid
    rw [resolve, resolve, if_pos hempty, if_pos hempty]
  · obtain ⟨s, hs, hreads⟩ := Source.ofJson_of_holdsStrings ha hastr
    obtain ⟨s', hs', hreads'⟩ := Source.ofJson_of_holdsStrings hb hbstr
    have hqueue : queue s r.rules.entries = queue s' r.rules.entries :=
      queue_congr fun entry hentry => Option.ext fun value => by
        rw [hreads, hreads', h entry hentry]
    rw [resolve_eq_bind hid, resolve_eq_bind hid, hs, hs']
    change queue s r.rules.entries >>= _ = queue s' r.rules.entries >>= _
    rw [hqueue]

/-! ## Keys without a rule -/

/-- A key has a rule just if its spec stands among the entries. -/
lemma isSome_rule?_iff {r : Resolver} (h : r.rules.Indexed) {key : String} :
    (r.rule? key).isSome ↔ ∃ entry ∈ r.rules.entries, entry.spec = normalizeSpec key := by
  rw [Option.isSome_iff_exists]
  constructor
  · rintro ⟨rule, hrule⟩
    obtain ⟨i, -, hi⟩ := (h.get?_eq_some_iff key rule).mp hrule
    exact ⟨_, List.mem_of_getElem? hi, rfl⟩
  · rintro ⟨⟨spec, rule⟩, hentry, rfl⟩
    obtain ⟨i, hi⟩ := List.mem_iff_getElem?.mp hentry
    have hat : r.rules.specAt? i = some (normalizeSpec key) := by
      rw [RuleTable.specAt?, hi]
      rfl
    exact ⟨rule, (h.get?_eq_some_iff key rule).mpr ⟨i, (h _ i).mpr hat, hi⟩⟩

lemma mem_unboundKeys {r : Resolver} (h : r.rules.Indexed) {source : Json} {key : String} :
    key ∈ r.unboundKeys source
      ↔ key ∈ source.keys ∧ ∀ entry ∈ r.rules.entries, entry.spec ≠ normalizeSpec key := by
  have hfilter : r.unboundKeys source = source.keys.filter fun key => (r.rule? key).isNone := by
    cases source <;> rfl
  rw [hfilter, List.mem_filter, Option.isNone_iff_eq_none, ← Option.not_isSome_iff_eq_none,
    isSome_rule?_iff h]
  simp only [not_exists, not_and, ne_eq]

/-- **A resolver sees a source only through the specs that have rules.**  Two sources that agree for
these specs have the same outcome, be it a text or a fault.  So keys that are reported as unbound
may be deleted; so markers may be added to keys and removed, as long as no spec has two keys; and a
key that is not reported has a rule. -/
theorem resolve_eq_of_agreeFor (catalog : Catalog) (target identifier : String) (strict : Bool)
    (edits : List Edit) :
    let r := runAll ⟨target, identifier, strict, { catalog := catalog }⟩ edits
    (∀ a b : Json, a.Ordered → a.HoldsStrings → b.Ordered → b.HoldsStrings →
        (∀ entry ∈ r.rules.entries, Json.AgreeFor entry.spec a b) → r.resolve a = r.resolve b)
      ∧ ∀ source : Json, source.Ordered → source.HoldsStrings →
        (∀ keys ⊆ r.unboundKeys source, r.resolve (source.without keys) = r.resolve source)
          ∧ (∀ rename : String → String,
              (∀ a ∈ source.keys, ∀ b ∈ source.keys, normalizeSpec a = normalizeSpec b → a = b) →
              (∀ key ∈ source.keys, Json.Respelled key (rename key)) →
              r.resolve (source.respell rename) = r.resolve source)
          ∧ ∀ key ∈ source.keys, key ∉ r.unboundKeys source →
              ∃ entry ∈ r.rules.entries, entry.spec = normalizeSpec key := by
  intro r
  have hindexed : r.rules.Indexed :=
    (sound_rules_runAll edits (r := ⟨target, identifier, strict, { catalog := catalog }⟩)
      (RuleTable.sound_clear { catalog := catalog })).indexed
  refine ⟨fun a b ha hastr hb hbstr h => ?_, fun source hord hstr => ⟨fun keys hkeys => ?_,
    fun rename hdistinct hrename => ?_, fun key hkey hbound => ?_⟩⟩
  · exact resolve_congr r ha hastr hb hbstr fun entry hentry => (h entry hentry).gives_iff ha hb
  · refine resolve_congr r (Json.ordered_without hord keys) (Json.holdsStrings_without hstr keys)
      hord hstr fun entry hentry value => Json.gives_without_iff fun key hkey => ?_
    exact (((mem_unboundKeys hindexed).mp (hkeys hkey)).2 entry hentry).symm
  · exact resolve_congr r (Json.ordered_respell hord rename) (Json.holdsStrings_respell hstr rename)
      hord hstr fun entry _ value => Json.gives_respell_iff hord hdistinct fun key hkey =>
        Json.normalizeSpec_of_respelled (hrename key hkey)
  · rw [mem_unboundKeys hindexed] at hbound
    by_contra hno
    exact hbound ⟨hkey, fun entry hentry heq => hno ⟨entry, hentry, heq⟩⟩

/-- A rule with a fixed text, and one with a chain that leaves values as they are. -/
def fixedAndKept : List Edit := [.setStatic "a" "none", .addRule ":b" [.live ⟨"keep", .ok⟩]]

/-- A source with two keys for one spec, and a key without a rule. -/
def spelledTwice : Json :=
  .object [("&b", .string "one"), (":b", .string "two"), ("stray", .string "x")]

/-- The same as far as the rules are concerned. -/
def spelledOnce : Json := .object [("b", .string "two"), ("other", .string "y")]

theorem resolve_spelledTwice :
    let r := runAll ⟨"/:a/:b", ":", true, { catalog := {} }⟩ fixedAndKept
    r.resolve spelledTwice = .ok "/none/two"
      ∧ r.resolve spelledTwice = r.resolve spelledOnce
      ∧ r.unboundKeys spelledTwice = ["stray"]
      ∧ r.resolve (spelledTwice.without ["stray"]) = r.resolve spelledTwice
      ∧ r.resolve (spelledOnce.respell fun key => "&:" ++ key) = r.resolve spelledOnce
      ∧ ∃ entry ∈ r.rules.entries, entry.spec = normalizeSpec "&b" := by
  intro r
  have htwice : spelledTwice.Ordered ∧ spelledTwice.HoldsStrings := by decide
  have honce : spelledOnce.Ordered ∧ spelledOnce.HoldsStrings := by decide
  have hunbound : r.unboundKeys spelledTwice = ["stray"] := by decide +kernel
  have hspecs : ∀ entry ∈ r.rules.entries, entry.spec = "a" ∨ entry.spec = "b" := by decide +kernel
  obtain ⟨hagree, hsource⟩ := resolve_eq_of_agreeFor {} "/:a/:b" ":" true fixedAndKept
  obtain ⟨hwithout, -, hbound⟩ := hsource spelledTwice htwice.1 htwice.2
  obtain ⟨-, hrespell, -⟩ := hsource spelledOnce honce.1 honce.2
  refine ⟨by decide +kernel, ?_, hunbound, ?_, ?_, ?_⟩
  · refine hagree _ _ htwice.1 htwice.2 honce.1 honce.2 fun entry hentry => ?_
    rcases hspecs entry hentry with hspec | hspec
    · rw [hspec]
      exact Or.inl (by decide)
    · rw [hspec]
      exact Or.inr ⟨"two", ⟨":b", by simp, by decide, by decide⟩,
        ⟨"b", by simp, by decide, by decide⟩⟩
  · exact hwithout ["stray"] (by rw [hunbound]; exact List.Subset.refl _)
  · refine hrespell _ (by decide) fun key _ => ⟨[], ['&', ':'], key.toList, by simp, rfl, ?_⟩
    rw [String.toList_append]
    rfl
  · exact hbound "&b" (by decide) (by rw [hunbound]; decide)

end Resolver

end Placeholders
