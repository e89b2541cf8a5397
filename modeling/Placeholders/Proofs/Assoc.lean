import Mathlib.Data.List.Induction
import Mathlib.Data.List.Nodup
import Mathlib.Data.String.Basic
import Placeholders.Assoc

/-!
# Lists of keys and values

A list that ascends by key is made by inserting pair after pair.

* `mem_insert`, `lookup_insert`, `length_insert` — what is in the list after a pair was inserted.
* `insert_ascending` — the list still ascends.
* `lookup_ofList`, `mem_ofList`, `ofList_ascending` — the same for all pairs of a list: under each
  key the last one counts.
* `ofList_of_ascending` — a list that ascends already stays as it is.
* `lookup_eq_some_iff_mem`, `lookup_filter`, `lookup_rename` — looking into lists of any kind.
-/

namespace Placeholders.Assoc

variable {α : Type}

lemma mem_insert {key : String} {value : α} {x : String × α} :
    ∀ {fields : List (String × α)}, x ∈ insert key value fields → x = (key, value) ∨ x ∈ fields
  | [], hx => by simpa [insert] using hx
  | (k, v) :: rest, hx => by
      rw [insert] at hx
      split_ifs at hx with hlt heq
      · exact List.mem_cons.mp hx
      · exact (List.mem_cons.mp hx).imp id (List.mem_cons_of_mem _)
      · rcases List.mem_cons.mp hx with rfl | hx
        · exact Or.inr (List.mem_cons_self ..)
        · exact (mem_insert hx).imp id (List.mem_cons_of_mem _)

lemma insert_ascending (key : String) (value : α) :
    ∀ fields : List (String × α), fields.Pairwise (fun a b => a.1 < b.1) →
      (insert key value fields).Pairwise fun a b => a.1 < b.1
  | [], _ => List.pairwise_singleton _ _
  | (k, v) :: rest, h => by
      obtain ⟨hk, hrest⟩ := List.pairwise_cons.mp h
      rw [insert]
      split_ifs with hlt heq
      · refine List.pairwise_cons.mpr ⟨fun x hx => ?_, h⟩
        rcases List.mem_cons.mp hx with rfl | hx
        · exact hlt
        · exact hlt.trans (hk x hx)
      · exact List.pairwise_cons.mpr ⟨fun x hx => heq ▸ hk x hx, hrest⟩
      · refine List.pairwise_cons.mpr ⟨fun x hx => ?_, insert_ascending key value rest hrest⟩
        rcases mem_insert hx with rfl | hx
        · exact lt_of_le_of_ne (not_lt.mp hlt) (Ne.symm heq)
        · exact hk x hx

lemma lookup_cons_eq_ite {κ : Type} [BEq κ] [LawfulBEq κ] [DecidableEq κ] (k key : κ) (value : α)
    (fields : List (κ × α)) :
    ((key, value) :: fields).lookup k = if k = key then some value else fields.lookup k := by
  rw [List.lookup_cons]
  by_cases h : k = key
  · rw [if_pos h, beq_iff_eq.mpr h]
  · rw [if_neg h, beq_eq_false_iff_ne.mpr h]

lemma lookup_insert (key : String) (value : α) (k : String) : ∀ fields : List (String × α),
    (insert key value fields).lookup k = if k = key then some value else fields.lookup k
  | [] => lookup_cons_eq_ite k key value []
  | (k', v) :: rest => by
      rw [insert]
      by_cases hlt : key < k'
      · rw [if_pos hlt, lookup_cons_eq_ite]
      · rw [if_neg hlt]
        by_cases heq : key = k'
        · rw [if_pos heq, lookup_cons_eq_ite, lookup_cons_eq_ite k k', ← heq]
          by_cases hk : k = key <;> simp only [hk, if_true, if_false]
        · rw [if_neg heq, lookup_cons_eq_ite, lookup_cons_eq_ite k k',
            lookup_insert key value k rest]
          by_cases hk : k = k'
          · rw [if_pos hk, if_pos hk, if_neg fun h => heq (h.symm.trans hk)]
          · rw [if_neg hk, if_neg hk]

lemma length_insert {key : String} (value : α) : ∀ {fields : List (String × α)},
    fields.lookup key = none → (insert key value fields).length = fields.length + 1
  | [], _ => rfl
  | (k, v) :: rest, h => by
      rw [lookup_cons_eq_ite] at h
      by_cases hkey : key = k
      · rw [if_pos hkey] at h
        cases h
      · rw [if_neg hkey] at h
        rw [insert, if_neg hkey]
        split_ifs with hlt
        · rfl
        · rw [List.length_cons, length_insert value h, List.length_cons]

/-! ## Making a list of pairs ascend -/

lemma ofList_ascending (pairs : List (String × α)) :
    (ofList pairs).Pairwise fun a b => a.1 < b.1 := by
  have h : ∀ pairs acc : List (String × α), acc.Pairwise (fun a b => a.1 < b.1) →
      (pairs.foldl (fun acc pair => insert pair.1 pair.2 acc) acc).Pairwise
        fun a b => a.1 < b.1 := by
    intro pairs
    induction pairs with
    | nil => intro acc h; exact h
    | cons pair pairs ih => intro acc h; exact ih _ (insert_ascending pair.1 pair.2 acc h)
  exact h pairs [] List.Pairwise.nil

/-- **Of several pairs with one key the last counts.** -/
theorem lookup_ofList (pairs : List (String × α)) (k : String) :
    (ofList pairs).lookup k = pairs.reverse.lookup k := by
  have h : ∀ pairs acc : List (String × α),
      (pairs.foldl (fun acc pair => insert pair.1 pair.2 acc) acc).lookup k
        = (pairs.reverse.lookup k).or (acc.lookup k) := by
    intro pairs
    induction pairs with
    | nil => intro acc; rfl
    | cons pair pairs ih =>
        intro acc
        obtain ⟨key, value⟩ := pair
        have hone : [(key, value)].lookup k = if k = key then some value else none :=
          lookup_cons_eq_ite k key value []
        rw [List.foldl_cons, ih, lookup_insert, List.reverse_cons, List.lookup_append, hone,
          Option.or_assoc]
        by_cases hkey : k = key <;> simp [hkey]
  have hall := h pairs []
  rw [List.lookup_nil, Option.or_none] at hall
  exact hall

lemma insert_of_forall_lt {key : String} (value : α) : ∀ {fields : List (String × α)},
    (∀ field ∈ fields, field.1 < key) → insert key value fields = fields ++ [(key, value)]
  | [], _ => rfl
  | (k, v) :: rest, h => by
      obtain ⟨hk, hrest⟩ := List.forall_mem_cons.mp h
      rw [insert, if_neg (not_lt.mpr hk.le), if_neg hk.ne', insert_of_forall_lt value hrest]
      rfl

/-- A list that ascends already stays as it is. -/
lemma ofList_of_ascending {fields : List (String × α)}
    (h : fields.Pairwise fun a b => a.1 < b.1) : ofList fields = fields := by
  induction fields using List.reverseRecOn with
  | nil => rfl
  | append_singleton fields field ih =>
      obtain ⟨hfields, -, hlast⟩ := List.pairwise_append.mp h
      have hall : ∀ other ∈ fields, other.1 < field.1 := fun other hother =>
        hlast other hother field (List.mem_singleton_self field)
      rw [ofList, List.foldl_append]
      exact (congrArg (insert field.1 field.2) (ih hfields)).trans
        (insert_of_forall_lt field.2 hall)

/-! ## Looking into a list -/

section Lookup

variable {κ β : Type} [BEq κ] [LawfulBEq κ]

lemma mem_of_lookup {pairs : List (κ × β)} {k : κ} {v : β} (h : pairs.lookup k = some v) :
    (k, v) ∈ pairs := by
  obtain ⟨before, after, rfl, -⟩ := List.lookup_eq_some_iff.mp h
  exact List.mem_append_right _ (List.mem_cons_self ..)

/-- If no key is there twice, looking up a key is finding its pair. -/
lemma lookup_eq_some_iff_mem : ∀ {pairs : List (κ × β)}, (pairs.map Prod.fst).Nodup →
    ∀ {k : κ} {v : β}, pairs.lookup k = some v ↔ (k, v) ∈ pairs
  | [], _, k, v => by simp
  | (key, value) :: pairs, h, k, v => by
      obtain ⟨hkey, hpairs⟩ := List.nodup_cons.mp h
      rw [List.lookup_cons, List.mem_cons, Prod.mk.injEq]
      by_cases hk : k = key
      · subst hk
        have hno : (k, v) ∉ pairs := fun hmem => hkey (List.mem_map.mpr ⟨_, hmem, rfl⟩)
        simp [hno, eq_comm]
      · have hne : (k == key) = false := beq_eq_false_iff_ne.mpr hk
        rw [hne]
        simp [hk, lookup_eq_some_iff_mem hpairs]

/-- Pairs with other keys do not matter. -/
lemma lookup_filter {p : κ × β → Bool} {k : κ} : ∀ {pairs : List (κ × β)},
    (∀ pair ∈ pairs, pair.1 = k → p pair = true) → (pairs.filter p).lookup k = pairs.lookup k
  | [], _ => rfl
  | (key, value) :: pairs, h => by
      obtain ⟨hhere, hrest⟩ := List.forall_mem_cons.mp h
      rw [List.filter_cons]
      by_cases hk : k = key
      · rw [if_pos (hhere hk.symm), List.lookup_cons, List.lookup_cons, lookup_filter hrest]
      · have hne : (k == key) = false := beq_eq_false_iff_ne.mpr hk
        rw [List.lookup_cons, hne, ← lookup_filter hrest]
        split_ifs
        · rw [List.lookup_cons, hne]
        · rfl

/-- If keys stay different under other names, a pair is found again under its new one. -/
lemma lookup_rename {rename : κ → κ} {pairs : List (κ × β)}
    (h : ((pairs.map Prod.fst).map rename).Nodup) {k : κ} {v : β} :
    (pairs.map fun pair => (rename pair.1, pair.2)).reverse.lookup k = some v
      ↔ ∃ k', (k', v) ∈ pairs ∧ rename k' = k := by
  have hnodup :
      ((pairs.map fun pair => (rename pair.1, pair.2)).reverse.map Prod.fst).Nodup := by
    rw [List.map_reverse, List.nodup_reverse, List.map_map]
    rwa [List.map_map] at h
  rw [lookup_eq_some_iff_mem hnodup, List.mem_reverse, List.mem_map]
  constructor
  · rintro ⟨pair, hpair, heq⟩
    obtain ⟨rfl, rfl⟩ := Prod.mk.inj heq
    exact ⟨pair.1, hpair, rfl⟩
  · rintro ⟨k', hk, rfl⟩
    exact ⟨(k', v), hk, rfl⟩

end Lookup

lemma nodup_of_ascending {pairs : List (String × α)} (h : pairs.Pairwise fun a b => a.1 < b.1) :
    (pairs.map Prod.fst).Nodup := by
  rw [List.Nodup, List.pairwise_map]
  exact h.imp fun hlt => hlt.ne

/-- What is in the ascending list was among the pairs, and every key of a pair is still there. -/
lemma mem_ofList {pairs : List (String × α)} {x : String × α} (h : x ∈ ofList pairs) :
    x ∈ pairs := by
  have hlookup := (lookup_eq_some_iff_mem (nodup_of_ascending (ofList_ascending pairs))).mpr h
  rw [lookup_ofList] at hlookup
  exact List.mem_reverse.mp (mem_of_lookup hlookup)

end Placeholders.Assoc
