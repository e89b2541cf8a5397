import Placeholders.Proofs.Assoc
import Placeholders.Source

/-!
# What a source gives for a spec

A source is an object of strings whose keys may carry markers, so several keys can stand for one
spec.  `Json.Gives` says which value counts: the one under the greatest of these keys.  It is stated
on the object alone; reading a source is compared with it.

* `Json.Ordered` — the fields ascend by key.  Every object that is made from fields is like that
  (`Json.ordered_ofFields`), so keys do not repeat.
* `Json.HoldsStrings` — the value is an object of strings.
* `Json.gives_ofFields` — what such an object gives, told by the fields that it is made from.
* **`Source.ofJson_of_holdsStrings`** — such an object is read, and looking up a spec gives what the
  object gives.
* **`Source.ofJson_of_not_isString`**, `Source.ofJson_of_not_object` — everything else is refused,
  and the least key with a wrong value is named.
-/

namespace Placeholders

namespace Json

/-- The fields of an object ascend strictly by key.  Keys compare by code points, and that is how
their bytes compare. -/
def Ordered : Json → Prop
  | .object fields => fields.Pairwise fun a b => a.1 < b.1
  | _ => True

instance : DecidablePred Ordered
  | .object fields => inferInstanceAs (Decidable (fields.Pairwise fun a b => a.1 < b.1))
  | .null | .bool _ | .number _ | .string _ | .array _ => .isTrue trivial

/-- The value is a string. -/
def IsString : Json → Prop
  | .string _ => True
  | _ => False

instance : DecidablePred IsString
  | .string _ => .isTrue trivial
  | .null | .bool _ | .number _ | .array _ | .object _ => .isFalse id

/-- The value is an object of strings. -/
def HoldsStrings : Json → Prop
  | .object fields => ∀ field ∈ fields, field.2.IsString
  | _ => False

instance : DecidablePred HoldsStrings
  | .object fields => inferInstanceAs (Decidable (∀ field ∈ fields, field.2.IsString))
  | .null | .bool _ | .number _ | .string _ | .array _ => .isFalse id

/-- The object gives this value for a spec: it stands under the greatest of the keys that have this
spec. -/
def Gives (source : Json) (spec value : String) : Prop :=
  match source with
  | .object fields => ∃ key, (key, .string value) ∈ fields ∧ normalizeSpec key = spec
      ∧ ∀ other ∈ fields, normalizeSpec other.1 = spec → other.1 ≤ key
  | _ => False

/-! ## Objects that are made from fields -/

/-- **The fields of every object that is made from fields ascend.** -/
theorem ordered_ofFields (fields : List (String × Json)) : (ofFields fields).Ordered :=
  Assoc.ofList_ascending fields

lemma holdsStrings_ofFields {fields : List (String × Json)}
    (h : ∀ field ∈ fields, field.2.IsString) : (ofFields fields).HoldsStrings :=
  fun field hfield => h field (Assoc.mem_ofList hfield)

/-- What an object gives that is made from fields: of the keys with this spec the greatest counts,
and of the fields under this key the last. -/
lemma gives_ofFields {fields : List (String × Json)} {spec value : String} :
    (ofFields fields).Gives spec value
      ↔ ∃ key, fields.reverse.lookup key = some (.string value) ∧ normalizeSpec key = spec
        ∧ ∀ other ∈ fields, normalizeSpec other.1 = spec → other.1 ≤ key := by
  have hmem (key : String) (value : Json) : (key, value) ∈ Assoc.ofList fields
      ↔ fields.reverse.lookup key = some value := by
    rw [← Assoc.lookup_ofList, Assoc.lookup_eq_some_iff_mem
      (Assoc.nodup_of_ascending (Assoc.ofList_ascending fields))]
  have hkeys (P : String → Prop) : (∀ other ∈ Assoc.ofList fields, P other.1)
      ↔ ∀ other ∈ fields, P other.1 := by
    refine ⟨fun h other hother => ?_, fun h other hother => h other (Assoc.mem_ofList hother)⟩
    have hsome : (fields.reverse.lookup other.1).isSome :=
      List.lookup_isSome_iff.mpr ⟨other, List.mem_reverse.mpr hother, beq_self_eq_true other.1⟩
    obtain ⟨value, hvalue⟩ := Option.isSome_iff_exists.mp hsome
    exact h (other.1, value) ((hmem other.1 value).mpr hvalue)
  refine exists_congr fun key => ?_
  rw [← hmem]
  exact and_congr_right fun _ => and_congr_right fun _ =>
    hkeys fun other => normalizeSpec other = spec → other ≤ key

/-- An object gives one value for a spec at most. -/
lemma Gives.unique {source : Json} (hord : source.Ordered) {spec v w : String}
    (hv : source.Gives spec v) (hw : source.Gives spec w) : v = w := by
  cases source with
  | object fields =>
      obtain ⟨key, hkey, hspec, hgreatest⟩ := hv
      obtain ⟨key', hkey', hspec', hgreatest'⟩ := hw
      obtain rfl : key = key' :=
        le_antisymm (hgreatest' _ hkey hspec) (hgreatest _ hkey' hspec')
      have hnodup := Assoc.nodup_of_ascending hord
      have hv := (Assoc.lookup_eq_some_iff_mem hnodup).mpr hkey
      rw [(Assoc.lookup_eq_some_iff_mem hnodup).mpr hkey'] at hv
      simpa using hv.symm
  | _ => exact hv.elim

end Json

namespace Source

open Json

/-! ## Reading a source -/

/-- What is known of a source that was read: looking up a spec gives what the object gives. -/
def Reads (s : Source) (source : Json) : Prop :=
  ∀ spec value, s.value? spec = some value ↔ source.Gives spec value

/-- The fields of an object of strings, with the strings in the open. -/
lemma exists_pairs {fields : List (String × Json)} (h : ∀ field ∈ fields, field.2.IsString) :
    ∃ pairs : List (String × String), fields = pairs.map fun p => (p.1, .string p.2) := by
  induction fields with
  | nil => exact ⟨[], rfl⟩
  | cons field fields ih =>
      obtain ⟨pairs, hpairs⟩ := ih fun f hf => h f (List.mem_cons_of_mem _ hf)
      obtain ⟨key, value⟩ := field
      cases value with
      | string text => exact ⟨(key, text) :: pairs, by rw [List.map_cons, ← hpairs]⟩
      | _ => exact (h _ (List.mem_cons_self ..)).elim

/-- Reading fields that hold strings puts the values on top of those before, last first. -/
lemma foldlM_add (pairs : List (String × String)) : ∀ s : Source,
    (pairs.map fun p => (p.1, Json.string p.2)).foldlM (fun s field => s.add field.1 field.2) s
      = .ok ⟨(pairs.map fun p => (normalizeSpec p.1, p.2)).reverse ++ s.values⟩ := by
  induction pairs with
  | nil => intro s; rfl
  | cons p pairs ih =>
      intro s
      rw [List.map_cons, List.foldlM_cons]
      have h := ih ⟨(normalizeSpec p.1, p.2) :: s.values⟩
      rw [List.map_cons, List.reverse_cons, List.append_assoc]
      exact h

/-- In pairs whose keys descend, the first one with a spec is the one with the greatest key. -/
lemma lookup_descending (spec value : String) :
    ∀ pairs : List (String × String), pairs.Pairwise (fun a b => b.1 < a.1) →
      ((pairs.map fun p => (normalizeSpec p.1, p.2)).lookup spec = some value
        ↔ ∃ key, (key, value) ∈ pairs ∧ normalizeSpec key = spec
          ∧ ∀ other ∈ pairs, normalizeSpec other.1 = spec → other.1 ≤ key)
  | [], _ => by simp
  | (k, w) :: pairs, h => by
      obtain ⟨hk, hpairs⟩ := List.pairwise_cons.mp h
      rw [List.map_cons, List.lookup_cons]
      by_cases hspec : normalizeSpec k = spec
      · rw [beq_iff_eq.mpr hspec.symm]
        constructor
        · intro hw
          obtain rfl : w = value := by simpa using hw
          refine ⟨k, List.mem_cons_self .., hspec, fun other hother _ => ?_⟩
          rcases List.mem_cons.mp hother with rfl | hother
          · exact le_refl _
          · exact (hk other hother).le
        · rintro ⟨key, hmem, -, hmax⟩
          rcases List.mem_cons.mp hmem with heq | hmem
          · rw [(Prod.mk.inj heq).2]
          · exact absurd (hk _ hmem) (not_lt.mpr (hmax _ (List.mem_cons_self ..) hspec))
      · have hne : (spec == normalizeSpec k) = false := beq_eq_false_iff_ne.mpr (Ne.symm hspec)
        rw [hne]
        refine (lookup_descending spec value pairs hpairs).trans ⟨?_, ?_⟩
        · rintro ⟨key, hmem, hkey, hmax⟩
          refine ⟨key, List.mem_cons_of_mem _ hmem, hkey, fun other hother hsame => ?_⟩
          rcases List.mem_cons.mp hother with rfl | hother
          · exact absurd hsame hspec
          · exact hmax other hother hsame
        · rintro ⟨key, hmem, hkey, hmax⟩
          rcases List.mem_cons.mp hmem with heq | hmem
          · exact absurd ((Prod.mk.inj heq).1 ▸ hkey) hspec
          · exact ⟨key, hmem, hkey, fun other hother => hmax other (List.mem_cons_of_mem _ hother)⟩

/-- **An object of strings is read, and looking up a spec gives what the object gives.** -/
theorem ofJson_of_holdsStrings {source : Json} (hord : source.Ordered)
    (hstr : source.HoldsStrings) : ∃ s, ofJson source = .ok s ∧ s.Reads source := by
  cases source with
  | object fields =>
      obtain ⟨pairs, rfl⟩ := exists_pairs hstr
      refine ⟨_, foldlM_add pairs ⟨[]⟩, fun spec value => ?_⟩
      have hdesc : pairs.reverse.Pairwise fun a b => b.1 < a.1 := by
        have hasc : (pairs.map fun p => (p.1, Json.string p.2)).Pairwise
            fun a b => a.1 < b.1 := hord
        rw [List.pairwise_map] at hasc
        exact List.pairwise_reverse.mpr hasc
      have h := lookup_descending spec value pairs.reverse hdesc
      simp only [value?, List.append_nil, ← List.map_reverse, h, Gives, List.mem_reverse,
        List.mem_map]
      constructor
      · rintro ⟨key, hmem, hkey, hmax⟩
        refine ⟨key, ⟨(key, value), hmem, rfl⟩, hkey, ?_⟩
        rintro _ ⟨p, hp, rfl⟩ hsame
        exact hmax p hp hsame
      · rintro ⟨key, ⟨p, hp, heq⟩, hkey, hmax⟩
        obtain ⟨rfl, hval⟩ := Prod.mk.inj heq
        obtain rfl : p.2 = value := by simpa using hval
        exact ⟨p.1, hp, hkey, fun other hother =>
          hmax (other.1, .string other.2) ⟨other, hother, rfl⟩⟩
  | _ => exact hstr.elim

/-! ## Refusing a source -/

theorem ofJson_of_not_object {source : Json} (h : ∀ fields, source ≠ .object fields) :
    ofJson source = .error (.input (.sourceKind source.kind)) := by
  cases source with
  | object fields => exact absurd rfl (h fields)
  | _ => rfl

lemma add_of_not_isString {value : Json} (h : ¬ value.IsString) (s : Source) (key : String) :
    s.add key value = .error (.input (.sourceValue key value.kind)) := by
  cases value with
  | string text => exact absurd trivial h
  | _ => rfl

/-- **Of the values that are no strings, the one under the least key is named.** -/
theorem ofJson_of_not_isString {fields : List (String × Json)} {key : String} {value : Json}
    (hord : (Json.object fields).Ordered) (hmem : (key, value) ∈ fields) (hval : ¬ value.IsString)
    (hleast : ∀ other ∈ fields, ¬ other.2.IsString → key ≤ other.1) :
    ofJson (.object fields) = .error (.input (.sourceValue key value.kind)) := by
  obtain ⟨before, after, rfl⟩ := List.append_of_mem hmem
  have hbefore : ∀ field ∈ before, field.2.IsString := by
    intro field hfield
    by_contra hno
    have hlt := (List.pairwise_append.mp hord).2.2 field hfield (key, value) (List.mem_cons_self ..)
    exact absurd hlt (not_lt.mpr (hleast field (List.mem_append_left _ hfield) hno))
  have hhere (s : Source) : ((key, value) :: after).foldlM (fun s field => s.add field.1 field.2) s
      = .error (.input (.sourceValue key value.kind)) := by
    rw [List.foldlM_cons, add_of_not_isString hval]
    rfl
  obtain ⟨pairs, rfl⟩ := exists_pairs hbefore
  have hstep := foldlM_add pairs ⟨[]⟩
  rw [ofJson, List.foldlM_append, hstep]
  exact hhere _

/-- An object holds strings only, or there is a least key with something else. -/
lemma holdsStrings_or_exists_least {fields : List (String × Json)}
    (hord : (Json.object fields).Ordered) :
    (Json.object fields).HoldsStrings ∨ ∃ field ∈ fields, ¬ field.2.IsString
      ∧ ∀ other ∈ fields, ¬ other.2.IsString → field.1 ≤ other.1 := by
  induction fields with
  | nil => exact Or.inl fun field hfield => absurd hfield (List.not_mem_nil)
  | cons field fields ih =>
      obtain ⟨hlt, hord⟩ := List.pairwise_cons.mp hord
      by_cases hfield : field.2.IsString
      · rcases ih hord with hall | ⟨bad, hbad, hno, hleast⟩
        · exact Or.inl (List.forall_mem_cons.mpr ⟨hfield, hall⟩)
        · refine Or.inr ⟨bad, List.mem_cons_of_mem _ hbad, hno, fun other hother hwrong => ?_⟩
          rcases List.mem_cons.mp hother with rfl | hother
          · exact absurd hfield hwrong
          · exact hleast other hother hwrong
      · refine Or.inr ⟨field, List.mem_cons_self .., hfield, fun other hother _ => ?_⟩
        rcases List.mem_cons.mp hother with rfl | hother
        · exact le_refl _
        · exact (hlt other hother).le

/-- Whatever is read is read right. -/
lemma reads_of_ofJson {source : Json} {s : Source} (hord : source.Ordered)
    (h : ofJson source = .ok s) : s.Reads source := by
  cases source with
  | object fields =>
      rcases holdsStrings_or_exists_least hord with hstr | ⟨⟨key, value⟩, hmem, hval, hleast⟩
      · obtain ⟨s', hs', hreads⟩ := ofJson_of_holdsStrings hord hstr
        obtain rfl : s' = s := by rw [hs'] at h; exact Except.ok.inj h
        exact hreads
      · rw [ofJson_of_not_isString hord hmem hval hleast] at h
        cases h
  | _ => cases h

end Source

end Placeholders
