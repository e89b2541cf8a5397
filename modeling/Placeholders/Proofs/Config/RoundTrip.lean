import Placeholders.Config.Content
import Placeholders.Proofs.Json.RoundTrip

/-!
# Configurations as JSON and back

A configuration is read back from its JSON form.  Which case a value or a filter is can be told by
its shape alone, and all fields are written, so no default comes in.

* `fieldsOf?_object` — the fields of an object are looked up by name; `fieldsOf?_array` — an array
  stands for the object with its items under the names in order.
* `textsOf?_textsJson`, `substitutionOf?_optionsJson`, `filterOf?_filterJson`, `valueOf?_valueJson`,
  `bindingOf?_bindingJson`, `ofJson?_toJson` — each kind of part is read back.
* `plain_toJson` — the JSON form is read back from its text, too.
* **`ofJson?_toJson_eq`** — a configuration survives its JSON form, and one that was read from any
  JSON is read from its own form as well.
-/

namespace Placeholders.Config

/-! ## Records -/

lemma mapM_of_forall_eq_some {α β : Type} {f : α → Option β} {g : α → β} {xs : List α}
    (h : ∀ x ∈ xs, f x = some (g x)) : xs.mapM f = some (xs.map g) := by
  induction xs with
  | nil => rfl
  | cons x xs ih =>
      obtain ⟨hx, hxs⟩ := List.forall_mem_cons.mp h
      rw [List.mapM_cons, hx, ih hxs]
      rfl

lemma jsonItems_eq (items : List Json) : jsonItems items = items.map jsonContent := by
  induction items with
  | nil => rfl
  | cons item items ih => rw [jsonItems, ih, List.map_cons]

lemma jsonFields_eq (fields : List (String × Json)) :
    jsonFields fields
      = fields.map fun field => (.scalar (.ofText field.1), jsonContent field.2) := by
  induction fields with
  | nil => rfl
  | cons field fields ih => rw [jsonFields, ih, List.map_cons]

/-- If no key is there twice, one field at most is under a key: the one that looking up finds. -/
lemma filter_key_eq {key : String} {fields : List (String × Json)}
    (h : (fields.map Prod.fst).Nodup) :
    (fields.filter fun field => field.1 == key) = (fields.lookup key).toList.map (key, ·) := by
  induction fields with
  | nil => rfl
  | cons field fields ih =>
      obtain ⟨hfield, hfields⟩ := List.nodup_cons.mp h
      rw [List.filter_cons, List.lookup_cons, ih hfields]
      by_cases hkey : field.1 = key
      · subst hkey
        have hnone : fields.lookup field.1 = none := by
          rw [List.lookup_eq_none_iff]
          intro other hother
          rw [bne_iff_ne]
          intro heq
          exact hfield (heq ▸ List.mem_map_of_mem hother)
        rw [if_pos (beq_self_eq_true field.1), beq_self_eq_true, hnone]
        rfl
      · have hne : (key == field.1) = false := beq_eq_false_iff_ne.mpr (Ne.symm hkey)
        rw [if_neg (by simpa using hkey), hne]

/-- The fields at the position of a name are the one that looking up the name finds. -/
lemma filter_position_eq {names : List String} (hnames : names.Nodup)
    {fields : List (String × Json)} (hkeys : (fields.map Prod.fst).Nodup) {i : Nat}
    (hi : i < names.length) :
    ((fields.map fun field => (names.idxOf field.1, jsonContent field.2)).filter
        fun field => field.1 == i)
      = (fields.lookup names[i]).toList.map fun value => (i, jsonContent value) := by
  have hidx (name : String) : (names.idxOf name == i) = (name == names[i]) := by
    have h := List.idxOf_inj (List.getElem_mem hi) (y := name)
    rw [hnames.idxOf_getElem i hi] at h
    rw [Bool.eq_iff_iff, beq_iff_eq, beq_iff_eq, eq_comm, h, eq_comm]
  rw [List.filter_map]
  simp only [Function.comp_def, hidx, filter_key_eq hkeys, List.map_map]
  rw [hnames.idxOf_getElem i hi]

/-- **The fields of an object are looked up by name.**  Their order does not matter, nor does what
else there is. -/
theorem fieldsOf?_object {names : List String} (hnames : names.Nodup)
    {fields : List (String × Json)} (hkeys : (fields.map Prod.fst).Nodup) :
    fieldsOf? .inner names (jsonContent (.object fields))
      = some (names.map fun name => (fields.lookup name).map jsonContent) := by
  have hplaced : (jsonFields fields).mapM
      (fun field => (positionOf? .inner names field.1).map (·, field.2))
      = some (fields.map fun field => (names.idxOf field.1, jsonContent field.2)) := by
    rw [jsonFields_eq, List.mapM_map]
    exact mapM_of_forall_eq_some fun _ _ => rfl
  have hname (i : Nat) (hi : i < names.length) : names.getD i "" = names[i] := by simp [hi]
  have hnames' : (List.range names.length).map (names.getD · "") = names :=
    List.ext_getElem (by simp) fun i _ hi => by simp [hi]
  rw [jsonContent]
  simp only [fieldsOf?, Content.bare, hplaced, Option.bind_eq_bind, Option.bind_some]
  -- the right side goes over the positions, too
  conv_rhs => rw [← hnames', List.map_map]
  refine mapM_of_forall_eq_some fun i hi => ?_
  have hi := List.mem_range.mp hi
  rw [filter_position_eq hnames hkeys hi, Function.comp_apply, hname i hi]
  cases fields.lookup names[i] <;> rfl

/-- The items of an array are found under the names in order. -/
lemma map_lookup_zip {names : List String} (hnames : names.Nodup) (items : List Json)
    (h : items.length ≤ names.length) :
    (names.map fun name => (names.zip items).lookup name)
      = items.map some ++ List.replicate (names.length - items.length) none := by
  induction names generalizing items with
  | nil =>
      obtain rfl := List.length_eq_zero_iff.mp (Nat.le_zero.mp h)
      rfl
  | cons name names ih =>
      obtain ⟨hname, hnames⟩ := List.nodup_cons.mp hnames
      cases items with
      | nil => simp [List.replicate_succ]
      | cons item items =>
          have hothers : (names.map fun other => ((name, item) :: names.zip items).lookup other)
              = names.map fun other => (names.zip items).lookup other := by
            refine List.map_congr_left fun other hother => ?_
            have hne : (other == name) = false :=
              beq_eq_false_iff_ne.mpr fun heq => hname (heq ▸ hother)
            rw [List.lookup_cons, hne]
          rw [List.zip_cons_cons, List.map_cons, List.lookup_cons_self, hothers,
            ih hnames items (Nat.le_of_succ_le_succ h), List.map_cons, List.length_cons,
            List.length_cons, Nat.add_sub_add_right, List.cons_append]

/-- **An array stands for an object**: its items are the values of the names in order. -/
theorem fieldsOf?_array {names : List String} (hnames : names.Nodup) {items : List Json}
    (h : items.length ≤ names.length) :
    fieldsOf? .inner names (jsonContent (.array items))
      = fieldsOf? .inner names (jsonContent (.object (names.zip items))) := by
  have hkeys : ((names.zip items).map Prod.fst).Nodup := by
    rw [List.zip_eq_zip_take_min, List.map_fst_zip (by simp)]
    exact hnames.sublist (List.take_sublist _ _)
  have hlength : (jsonItems items).length = items.length := by rw [jsonItems_eq, List.length_map]
  have hlookup : (names.map fun name => ((names.zip items).lookup name).map jsonContent)
      = (jsonItems items).map some ++ List.replicate (names.length - items.length) none := by
    have h := congrArg (List.map (Option.map jsonContent)) (map_lookup_zip hnames items h)
    rw [List.map_map, List.map_append, List.map_map, List.map_replicate] at h
    rw [jsonItems_eq, List.map_map]
    exact h
  rw [fieldsOf?_object hnames hkeys, hlookup, jsonContent]
  simp only [fieldsOf?, Content.bare, hlength]
  exact if_pos ⟨rfl, h⟩

/-! ## Reading what was written -/

/-- If each thing is read from what is written of it, a list of them is. -/
lemma mapM_jsonItems {α : Type} {read : Content → Option α} {write : α → Json}
    (h : ∀ x, read (jsonContent (write x)) = some x) (xs : List α) :
    (jsonItems (xs.map write)).mapM read = some xs := by
  rw [jsonItems_eq, List.map_map, List.mapM_map]
  exact (mapM_of_forall_eq_some fun x _ => h x).trans (congrArg some (List.map_id xs))

lemma textOf?_ofText (text : String) : textOf? .inner (.scalar (.ofText text)) = some text := rfl

lemma textsOf?_textsJson (texts : List String) :
    textsOf? .inner (jsonContent (textsJson texts)) = some texts :=
  mapM_jsonItems textOf?_ofText texts

/-- The options of a substitution as JSON. -/
def optionsJson (options : SubstitutionConfig) : Json :=
  .object
    [("patterns", textsJson options.patterns), ("replacements", textsJson options.replacements)]

lemma substitutionOf?_optionsJson (options : SubstitutionConfig) :
    substitutionOf? (jsonContent (optionsJson options)) = some options := by
  have hfields : fieldsOf? .inner ["patterns", "replacements"] (jsonContent (optionsJson options))
      = some [some (jsonContent (textsJson options.patterns)),
          some (jsonContent (textsJson options.replacements))] :=
    fieldsOf?_object (by decide) (by decide : ["patterns", "replacements"].Nodup)
  rw [substitutionOf?, hfields]
  simp only [Option.bind_eq_bind, Option.bind_some, fieldOr, textsOf?_textsJson]
  rfl

lemma filterOf?_filterJson (f : FilterConfig) :
    filterOf? (jsonContent (filterJson f)) = some f := by
  cases f with
  | named name => rfl
  | substitution options =>
      have hfields : fieldsOf? .inner ["regex_replace"]
          (jsonContent (filterJson (.substitution options)))
          = some [some (jsonContent (optionsJson options))] :=
        fieldsOf?_object (by decide) (by decide : ["regex_replace"].Nodup)
      have hrecord : ∃ fields, jsonContent (filterJson (.substitution options)) = .record fields :=
        ⟨_, rfl⟩
      obtain ⟨fields, hrecord⟩ := hrecord
      rw [hrecord] at hfields ⊢
      rw [filterOf?, hfields]
      simp only [Option.bind_eq_bind, Option.bind_some, substitutionOf?_optionsJson]
      rfl

lemma valueOf?_valueJson (value : ValueConfig) :
    valueOf? (jsonContent (valueJson value)) = some value := by
  cases value with
  | text value => rfl
  | filters chain =>
      have hchain := mapM_jsonItems filterOf?_filterJson chain
      exact congrArg (Option.map ValueConfig.filters) hchain

lemma bindingOf?_bindingJson (b : BindingConfig) :
    bindingOf? .inner (jsonContent (bindingJson b)) = some b := by
  have hfields : fieldsOf? .inner ["key", "value"] (jsonContent (bindingJson b))
      = some [some (.scalar (.ofText b.key)), some (jsonContent (valueJson b.value))] :=
    fieldsOf?_object (by decide) (by decide : ["key", "value"].Nodup)
  rw [bindingOf?, hfields]
  simp only [Option.bind_eq_bind, Option.bind_some, textOf?_ofText, valueOf?_valueJson]
  rfl

/-- **A configuration is read back from its JSON form.** -/
lemma ofJson?_toJson (c : Config) : ofJson? (toJson c) = some c := by
  have hfields : fieldsOf? .inner ["target", "identifier", "throw_on_unresolved", "rules"]
      (jsonContent (toJson c))
      = some [some (.scalar (.ofText c.target)), some (.scalar (.ofText c.identifier)),
          some (jsonContent (.bool c.strict)),
          some (jsonContent (.array (c.rules.map bindingJson)))] :=
    fieldsOf?_object (by decide)
      (by decide : ["identifier", "rules", "target", "throw_on_unresolved"].Nodup)
  have hflag : flagOf? (jsonContent (.bool c.strict)) = some c.strict := by
    cases c.strict <;> rfl
  have hrules : rulesOf? .inner (jsonContent (.array (c.rules.map bindingJson))) = some c.rules :=
    mapM_jsonItems bindingOf?_bindingJson c.rules
  rw [ofJson?, ofContent?, hfields]
  simp only [Option.bind_eq_bind, Option.bind_some, fieldOr, textOf?_ofText, hflag, hrules]
  rfl

/-! ## Texts -/

open Json (Plain)

lemma ordered_of_keys {fields : List (String × Json)}
    (h : (fields.map Prod.fst).Pairwise (· < ·)) : (Json.object fields).Ordered :=
  List.pairwise_map.mp h

lemma plain_array_map {α : Type} {write : α → Json} {depth : Nat}
    (h : ∀ x, Plain depth (write x)) (xs : List α) : Plain (depth + 1) (.array (xs.map write)) := by
  refine .array fun item hitem => ?_
  obtain ⟨x, -, rfl⟩ := List.mem_map.mp hitem
  exact h x

lemma plain_textsJson (texts : List String) (depth : Nat) :
    Plain (depth + 1) (textsJson texts) :=
  plain_array_map (Plain.string depth) texts

lemma plain_optionsJson (options : SubstitutionConfig) (depth : Nat) :
    Plain (depth + 2) (optionsJson options) := by
  refine .object (ordered_of_keys (by decide : ["patterns", "replacements"].Pairwise (· < ·))) ?_
  intro field hfield
  rcases List.mem_pair.mp hfield with rfl | rfl
  · exact plain_textsJson options.patterns depth
  · exact plain_textsJson options.replacements depth

lemma plain_filterJson (f : FilterConfig) (depth : Nat) : Plain (depth + 3) (filterJson f) := by
  cases f with
  | named name => exact .string _ name
  | substitution options =>
      refine .object (ordered_of_keys (List.pairwise_singleton _ _)) ?_
      intro field hfield
      obtain rfl := List.mem_singleton.mp hfield
      exact plain_optionsJson options depth

lemma plain_valueJson (value : ValueConfig) (depth : Nat) :
    Plain (depth + 4) (valueJson value) := by
  cases value with
  | text value => exact .string _ value
  | filters chain => exact plain_array_map (plain_filterJson · depth) chain

lemma plain_bindingJson (b : BindingConfig) (depth : Nat) : Plain (depth + 5) (bindingJson b) := by
  refine .object (ordered_of_keys (by decide : ["key", "value"].Pairwise (· < ·))) ?_
  intro field hfield
  rcases List.mem_pair.mp hfield with rfl | rfl
  · exact .string _ b.key
  · exact plain_valueJson b.value depth

/-- There are seven containers inside each other in the JSON form at most. -/
lemma plain_toJson (c : Config) (depth : Nat) : Plain (depth + 7) (toJson c) := by
  have hkeys : ["identifier", "rules", "target", "throw_on_unresolved"].Pairwise (· < ·) := by
    decide
  refine .object (ordered_of_keys hkeys) ?_
  intro field hfield
  simp only [List.mem_cons, List.not_mem_nil, or_false] at hfield
  rcases hfield with rfl | rfl | rfl | rfl
  · exact .string _ c.identifier
  · exact plain_array_map (plain_bindingJson · depth) c.rules
  · exact .string _ c.target
  · exact .bool _ c.strict

/-- A configuration is read back from the text of its JSON form. -/
lemma read?_write_toJson (c : Config) : (Json.read? (toJson c).write).bind ofJson? = some c := by
  have hread : Json.read? (toJson c).write = some (toJson c) :=
    Json.read?_write (plain_toJson c 120)
  rw [hread, Option.bind_some, ofJson?_toJson]

/-! ## Configurations -/

/-- **A configuration survives its JSON form**, as a value and as a text.  And whatever JSON a
configuration was read from, its own JSON form is read as that JSON is: with fields left out, with
other fields, with arrays in place of records. -/
theorem ofJson?_toJson_eq :
    (∀ c : Config, ofJson? (toJson c) = some c
      ∧ (Json.read? (toJson c).write).bind ofJson? = some c)
    ∧ ∀ (v : Json) (c : Config), ofJson? v = some c →
      ofJson? (toJson c) = ofJson? v ∧ (Json.read? (toJson c).write).bind ofJson? = ofJson? v := by
  refine ⟨fun c => ⟨ofJson?_toJson c, read?_write_toJson c⟩, fun v c h => ?_⟩
  rw [h]
  exact ⟨ofJson?_toJson c, read?_write_toJson c⟩

/-- JSON without an identifier and a policy, with other fields, and with an array for a binding and
for the options of a substitution. -/
def looseJson : Json :=
  .object
    [("note", .number (.int 3)),
     ("rules", .array
       [.array
         [.string ":a",
          .array
            [.string "lowercase", .object [("regex_replace", .array [.array [.string "x"]])]]],
        .object [("key", .string "b"), ("note", .null), ("value", .string "\"x\"\n")]]),
     ("target", .string ":a/:b")]

/-- The configuration that it stands for. -/
def looseConfig : Config where
  target := ":a/:b"
  rules :=
    [⟨":a", .filters [.named "lowercase", .substitution ⟨["x"], []⟩]⟩, ⟨"b", .text "\"x\"\n"⟩]

theorem ofJson?_looseJson :
    ofJson? looseJson = some looseConfig ∧ ofJson? (toJson looseConfig) = ofJson? looseJson
      ∧ (Json.read? (toJson looseConfig).write).bind ofJson? = ofJson? looseJson := by
  have hread : ofJson? looseJson = some looseConfig := by decide +kernel
  exact ⟨hread, ofJson?_toJson_eq.2 looseJson looseConfig hread⟩

end Placeholders.Config
