import Placeholders.Proofs.Resolver.Relevance
import Placeholders.Render

/-!
# Pairs on top of an object

The source for rendering is an object from a file with the user's pairs set on top of it.  A pair
takes the place of the fields and pairs before it that have the same key.  A key may be spelled in
several ways, though, and of several spellings of one spec the greatest counts, wherever it comes
from.

* `gives_withPairs` — which value counts for a spec, in every case.
* `settle`, `gives_settle_iff` — a value that counts may be put in the place of all others of its
  spec.
* **`resolve_withPairs_of_greatest`** — the last pair for a spec overrides the file and the other
  pairs, unless one of these is spelled in a greater way.
* `not_override` — if one is, it does not.
-/

namespace Placeholders

open Json

/-- **What counts for a spec.**  Of all spellings the greatest decides; under this one the last pair
comes first, and without a pair the file. -/
theorem gives_withPairs {fields : List (String × Json)} {pairs : List (String × String)}
    {spec value : String} :
    (withPairs fields pairs).Gives spec value
      ↔ ∃ key, normalizeSpec key = spec
        ∧ (∀ k ∈ fields.map Prod.fst ++ pairs.map Prod.fst, normalizeSpec k = spec → k ≤ key)
        ∧ (pairs.reverse.lookup key = some value
          ∨ pairs.reverse.lookup key = none
            ∧ fields.reverse.lookup key = some (.string value)) := by
  have hlookup (key : String) : (pairs.reverse.map fun p => (p.1, Json.string p.2)).lookup key
      = (pairs.reverse.lookup key).map Json.string := by
    induction pairs.reverse with
    | nil => rfl
    | cons p rest ih =>
        rw [List.map_cons, List.lookup_cons, List.lookup_cons, ih]
        cases key == p.1 <;> rfl
  rw [withPairs, gives_ofFields]
  refine exists_congr fun key => ?_
  have hall : (∀ other ∈ fields ++ pairs.map (fun p => (p.1, Json.string p.2)),
        normalizeSpec other.1 = spec → other.1 ≤ key)
      ↔ ∀ k ∈ fields.map Prod.fst ++ pairs.map Prod.fst, normalizeSpec k = spec → k ≤ key := by
    simp only [List.forall_mem_append, List.forall_mem_map]
  rw [hall, List.reverse_append, List.lookup_append, ← List.map_reverse, hlookup]
  cases pairs.reverse.lookup key with
  | some v => simp [and_comm, and_left_comm]
  | none => simp [and_comm, and_left_comm]

/-! ## One field for a spec -/

/-- The fields with one of them in the place of all that have its spec. -/
def settle (fields : List (String × Json)) (key : String) (value : Json) : List (String × Json) :=
  fields.filter (fun field => normalizeSpec field.1 ≠ normalizeSpec key) ++ [(key, value)]

lemma mem_settle {fields : List (String × Json)} {key : String} {value : Json}
    {field : String × Json} : field ∈ settle fields key value
      ↔ field ∈ fields ∧ normalizeSpec field.1 ≠ normalizeSpec key ∨ field = (key, value) := by
  rw [settle, List.mem_append, List.mem_filter, decide_eq_true_iff, List.mem_singleton]

lemma lookup_settle {fields : List (String × Json)} {key : String} {value : Json} {k : String}
    (h : normalizeSpec k ≠ normalizeSpec key) :
    (settle fields key value).reverse.lookup k = fields.reverse.lookup k := by
  have hkey : k ≠ key := fun heq => h (congrArg normalizeSpec heq)
  rw [settle, List.reverse_append, ← List.filter_reverse]
  refine (Assoc.lookup_cons_eq_ite ..).trans ((if_neg hkey).trans ?_)
  refine Assoc.lookup_filter fun field _ hfield => ?_
  rw [decide_eq_true_iff, hfield]
  exact h

lemma gives_settle_self (fields : List (String × Json)) (key value : String) :
    (ofFields (settle fields key (.string value))).Gives (normalizeSpec key) value := by
  refine gives_ofFields.mpr ⟨key, ?_, rfl, fun other hother hsame => ?_⟩
  · rw [settle, List.reverse_append]
    exact (Assoc.lookup_cons_eq_ite ..).trans (if_pos rfl)
  · rcases mem_settle.mp hother with hother | rfl
    · exact absurd hsame hother.2
    · exact le_refl _

/-- Other specs are let alone. -/
lemma gives_settle_of_ne {fields : List (String × Json)} {key : String} {value : Json}
    {spec : String} (h : spec ≠ normalizeSpec key) (v : String) :
    (ofFields (settle fields key value)).Gives spec v ↔ (ofFields fields).Gives spec v := by
  rw [gives_ofFields, gives_ofFields]
  refine exists_congr fun k => ?_
  by_cases hk : normalizeSpec k = spec
  · have hgreatest : (∀ other ∈ settle fields key value, normalizeSpec other.1 = spec → other.1 ≤ k)
        ↔ ∀ other ∈ fields, normalizeSpec other.1 = spec → other.1 ≤ k := by
      constructor
      · intro hall other hother hsame
        exact hall other (mem_settle.mpr (Or.inl ⟨hother, hsame ▸ h⟩)) hsame
      · intro hall other hother hsame
        rcases mem_settle.mp hother with hother | rfl
        · exact hall other hother.1 hsame
        · exact absurd hsame.symm h
    rw [lookup_settle (hk ▸ h), hgreatest]
  · exact iff_of_false (fun hv => hk hv.2.1) fun hv => hk hv.2.1

/-- The value that counts for a spec may take the place of all fields with this spec. -/
lemma gives_settle_iff {fields : List (String × Json)} {key value : String}
    (h : (ofFields fields).Gives (normalizeSpec key) value) (spec v : String) :
    (ofFields (settle fields key (.string value))).Gives spec v
      ↔ (ofFields fields).Gives spec v := by
  by_cases hspec : spec = normalizeSpec key
  · subst hspec
    have hsettled := gives_settle_self fields key value
    constructor
    · intro hv
      exact hv.unique (ordered_ofFields _) hsettled ▸ h
    · intro hv
      exact hv.unique (ordered_ofFields _) h ▸ hsettled
  · exact gives_settle_of_ne hspec v

/-! ## The last pair for a spec -/

/-- The last pair for a spec gives its value if no other key with this spec is greater. -/
lemma gives_withPairs_of_greatest {fields : List (String × Json)}
    {before after : List (String × String)} {key : String} (value : String)
    (hlast : ∀ p ∈ after, normalizeSpec p.1 ≠ normalizeSpec key)
    (hgreatest : ∀ k ∈ fields.map Prod.fst ++ before.map Prod.fst,
      normalizeSpec k = normalizeSpec key → k ≤ key) :
    (withPairs fields (before ++ (key, value) :: after)).Gives (normalizeSpec key) value := by
  refine gives_withPairs.mpr ⟨key, rfl, fun k hk hsame => ?_, Or.inl ?_⟩
  · rw [List.map_append, List.map_cons, ← List.append_assoc] at hk
    rcases List.mem_append.mp hk with hk | hk
    · exact hgreatest k hk hsame
    · rcases List.mem_cons.mp hk with rfl | hk
      · exact le_refl _
      · obtain ⟨p, hp, rfl⟩ := List.mem_map.mp hk
        exact absurd hsame (hlast p hp)
  · have hafter : after.reverse.lookup key = none := by
      refine List.lookup_eq_none_iff.mpr fun p hp => bne_iff_ne.mpr fun heq => ?_
      exact hlast p (List.mem_reverse.mp hp) (by rw [heq])
    rw [List.reverse_append, List.reverse_cons, List.append_assoc, List.lookup_append, hafter,
      Option.none_or]
    exact (Assoc.lookup_cons_eq_ite ..).trans (if_pos rfl)

/-- **The last pair for a spec overrides the file and the other pairs**, if no other key with this
spec is greater than its own: the value of the pair counts, and resolving is as if it were the only
one for the spec. -/
theorem resolve_withPairs_of_greatest (r : Resolver) {fields : List (String × Json)}
    (before : List (String × String)) {after : List (String × String)} {key : String}
    (value : String)
    (hstr : ∀ field ∈ fields, field.2.IsString)
    (hlast : ∀ p ∈ after, normalizeSpec p.1 ≠ normalizeSpec key)
    (hgreatest : ∀ k ∈ fields.map Prod.fst ++ before.map Prod.fst,
      normalizeSpec k = normalizeSpec key → k ≤ key) :
    (withPairs fields (before ++ (key, value) :: after)).Gives (normalizeSpec key) value
      ∧ r.resolve (withPairs fields (before ++ (key, value) :: after))
        = r.resolve (withPairs
            (fields.filter fun field => normalizeSpec field.1 ≠ normalizeSpec key)
            ((before ++ after).filter (fun p => normalizeSpec p.1 ≠ normalizeSpec key)
              ++ [(key, value)])) := by
  have hgives := gives_withPairs_of_greatest value hlast hgreatest
  refine ⟨hgives, ?_⟩
  have hall (pairs : List (String × String)) :
      ∀ field ∈ fields ++ pairs.map (fun p => (p.1, Json.string p.2)), field.2.IsString := by
    refine List.forall_mem_append.mpr ⟨hstr, List.forall_mem_map.mpr fun _ _ => trivial⟩
  have hsettled : withPairs
        (fields.filter fun field => normalizeSpec field.1 ≠ normalizeSpec key)
        ((before ++ after).filter (fun p => normalizeSpec p.1 ≠ normalizeSpec key)
          ++ [(key, value)])
      = ofFields (settle (fields ++ (before ++ (key, value) :: after).map
          fun p => (p.1, Json.string p.2)) key (.string value)) := by
    simp [withPairs, settle, List.filter_map, Function.comp_def]
  rw [hsettled]
  refine Resolver.resolve_congr r (ordered_ofFields _) (holdsStrings_ofFields (hall _))
    (ordered_ofFields _) (holdsStrings_ofFields fun field hfield => ?_)
    fun entry _ v => (gives_settle_iff hgives entry.spec v).symm
  rcases mem_settle.mp hfield with hfield | rfl
  · exact hall _ field hfield.1
  · trivial

/-- One rule, for a spec that keys may spell in several ways. -/
def oneRule : Resolver where
  target := "<:a>"
  rules :=
    { catalog := {}
      entries := [⟨"a", .static "none"⟩]
      positions := [("a", 0)] }

/-- The file and an earlier pair are overridden, and a pair for another spec is let alone. -/
theorem resolve_withPairs_last :
    (∀ field ∈ [("&a", Json.string "file"), ("b", .string "b")], field.2.IsString)
      ∧ (∀ p ∈ [("b", "c")], normalizeSpec p.1 ≠ normalizeSpec ":a")
      ∧ (∀ k ∈ ["&a", "b"] ++ ["&:a"], normalizeSpec k = normalizeSpec ":a" → k ≤ ":a")
      ∧ oneRule.resolve (withPairs [("&a", .string "file"), ("b", .string "b")]
          [("&:a", "first"), (":a", "last"), ("b", "c")]) = .ok "<last>" := by
  have hstr : ∀ field ∈ [("&a", Json.string "file"), ("b", .string "b")], field.2.IsString := by
    decide
  have hlast : ∀ p ∈ [("b", "c")], normalizeSpec p.1 ≠ normalizeSpec ":a" := by decide
  have hgreatest : ∀ k ∈ ["&a", "b"] ++ ["&:a"],
      normalizeSpec k = normalizeSpec ":a" → k ≤ ":a" := by decide
  refine ⟨hstr, hlast, hgreatest, ?_⟩
  have h := (resolve_withPairs_of_greatest oneRule [("&:a", "first")] "last" hstr hlast hgreatest).2
  exact h.trans (by decide +kernel)

/-- **A pair does not override a greater spelling.**  The file names the spec without a marker, the
pair with one; the pair is last, and yet the file counts. -/
theorem not_override :
    oneRule.resolve (withPairs [("a", .string "file")] [(":a", "set")]) = .ok "<file>"
      ∧ ¬ ∀ (r : Resolver) (fields : List (String × Json)) (before after : List (String × String))
        (key value : String), (∀ field ∈ fields, field.2.IsString) →
        (∃ entry ∈ r.rules.entries, entry.spec = normalizeSpec key) →
        (∀ p ∈ after, normalizeSpec p.1 ≠ normalizeSpec key) →
        (withPairs fields (before ++ (key, value) :: after)).Gives (normalizeSpec key) value := by
  refine ⟨by decide +kernel, fun h => ?_⟩
  have hpair := h oneRule [("a", .string "file")] [] [] ":a" "set" (by decide) (by decide +kernel)
    (by decide)
  have hfile : (withPairs [("a", .string "file")] [(":a", "set")]).Gives "a" "file" :=
    gives_withPairs.mpr ⟨"a", by decide, by decide, Or.inr ⟨by decide, rfl⟩⟩
  exact absurd (hpair.unique (ordered_ofFields _) hfile) (by decide)

end Placeholders
