import Placeholders.Proofs.Resolver.Bulk
import Placeholders.Proofs.Resolver.Session

/-!
# Reading back what was written

Rules are written under keys, and they are looked up under keys.  The two take a key to its spec in
different ways: writing drops the marker of the identifier first, looking does not.

* `ReadsBack` — what is written under one key is found under another.
* `readsBack_iff` — this is so just if looking comes to the spec that writing comes to.
* `normalizeSpec_stripMarker_iff` — for one key looked up as it was written: if it does not begin
  with the identifier's marker, or if that is a marker that no spec begins with anyway.
* **`readsBack_runAll`** — all of this for resolvers after any edits.
* `not_readsBack` — under other identifiers a key with the marker leads to another spec.
-/

namespace Placeholders.Resolver

open RuleTable (Step)

/-- What is written under `key` is found under `look`: a fixed text, a chain that takes the place of
what was there, and a chain that goes on with the one that was there. -/
structure ReadsBack (r : Resolver) (key look : String) : Prop where
  static : ∀ text left, (perform (.setStatic key text)).run r = .ok () left →
    left.rule? look = some (.static text)
  set : ∀ chain left, (perform (.setRule key chain)).run r = .ok () left →
    ∃ filters, chain.mapM (FilterRef.resolve r.rules.catalog) = .ok filters
      ∧ left.rule? look = some (.chain filters)
      ∧ ∀ i, left.filterAt? look i = filters[i]?
  add : ∀ chain left, (perform (.addRule key chain)).run r = .ok () left →
    ∃ filters, chain.mapM (FilterRef.resolve r.rules.catalog) = .ok filters
      ∧ left.rule? look = some (.chain (((r.rule? look).bind Rule.filters?).getD [] ++ filters))

/-! ## The specs of keys -/

lemma stripMarker_of_hasMarker {r : Resolver} {key : String} {m : Char} {rest : List Char}
    (h : HasMarker r.identifier key) (hkey : key.toList = m :: rest) :
    r.stripMarker key = String.ofList rest := by
  rw [stripMarker, hkey]
  exact if_pos ((isDynamicKey_iff r key).mpr h)

/-- Writing and looking come to the same spec just if the marker that writing drops, if it drops
one, is a marker that no spec begins with. -/
lemma normalizeSpec_stripMarker_iff (r : Resolver) (key : String) :
    normalizeSpec key = normalizeSpec (r.stripMarker key)
      ↔ (HasMarker r.identifier key → r.identifier.toList.head?.any isMarker) := by
  by_cases hkey : HasMarker r.identifier key
  · obtain ⟨m, hm, hhead⟩ := hkey
    obtain ⟨rest, hrest⟩ := List.head?_eq_some_iff.mp hhead
    have hany : r.identifier.toList.head?.any isMarker = isMarker m := by
      rw [Option.mem_def.mp hm, Option.any_some]
    rw [stripMarker_of_hasMarker ⟨m, hm, hhead⟩ hrest, normalizeSpec, normalizeSpec, hrest,
      String.toList_ofList, String.ofList_inj, hany]
    by_cases hmarker : isMarker m = true
    · rw [List.dropWhile_cons_of_pos hmarker]
      exact iff_of_true rfl fun _ => hmarker
    · rw [List.dropWhile_cons_of_neg hmarker]
      refine iff_of_false (fun heq => ?_) fun h => hmarker (h ⟨m, hm, hhead⟩)
      -- the rest of a key is too short to be all of it
      have hlength := (List.dropWhile_suffix isMarker (l := rest)).length_le
      rw [← heq, List.length_cons] at hlength
      omega
  · rw [stripMarker_of_not_hasMarker hkey]
    exact iff_of_true rfl fun h => absurd h hkey

/-! ## One edit -/

section Edit

variable {r left : Resolver} {key look : String}

/-- Looking after an edit that is a step of the rules. -/
lemma rule?_take (h : r.rules.Sound) (s : Step) :
    ({ r with rules := r.rules.take s } : Resolver).rule? look
      = if normalizeSpec look = s.spec then some (s.update r.rules.catalog (r.rule? look))
        else r.rule? look :=
  RuleTable.get?_take h.indexed s look

/-- An edit that was done was not refused. -/
lemma eq_after_of_run {edit : Edit} (h : (perform edit).run r = .ok () left) :
    r.editFault? edit = none ∧ r.after edit = left := by
  rw [run_perform] at h
  exact Work.guarded_eq_ok_iff.mp h

lemma extended_eq (filters : List Filter) (before : Option Rule) :
    RuleTable.extended filters before
      = .chain ((before.bind Rule.filters?).getD [] ++ filters) := by
  rcases before with - | (- | -) <;> rfl

/-- What is written under a key is found under every key with its spec. -/
lemma readsBack_of_normalizeSpec (h : r.rules.Sound)
    (hlook : normalizeSpec look = normalizeSpec (r.stripMarker key)) : r.ReadsBack key look where
  static := by
    intro text left hrun
    obtain ⟨-, rfl⟩ := eq_after_of_run hrun
    rw [after, rule?_take h]
    exact if_pos hlook
  set := by
    intro chain left hrun
    obtain ⟨hfault, rfl⟩ := eq_after_of_run hrun
    have hrule : (r.after (.setRule key chain)).rule? look
        = some (.chain (chain.filterMap (FilterRef.filter? r.rules.catalog))) := by
      rw [after, rule?_take h]
      exact if_pos hlook
    refine ⟨_, RuleTable.mapM_resolve_of_chainFault? hfault, hrule, fun i => ?_⟩
    rw [filterAt?, hrule]
    rfl
  add := by
    intro chain left hrun
    obtain ⟨hfault, rfl⟩ := eq_after_of_run hrun
    refine ⟨_, RuleTable.mapM_resolve_of_chainFault? hfault, ?_⟩
    rw [after, rule?_take h]
    refine (if_pos hlook).trans ?_
    exact congrArg some (extended_eq _ _)

/-- Under a key with another spec nothing has changed, so it does not show what was written. -/
lemma not_readsBack_of_ne (h : r.rules.Sound)
    (hlook : normalizeSpec look ≠ normalizeSpec (r.stripMarker key)) : ¬ r.ReadsBack key look := by
  intro hback
  have hsame (text : String) : r.rule? look = some (.static text) := by
    have hafter : (r.after (.setStatic key text)).rule? look = r.rule? look := by
      rw [after, rule?_take h]
      exact if_neg hlook
    rw [← hafter]
    exact hback.static text _ rfl
  -- one rule cannot be two texts
  have hboth := Option.some.inj ((hsame "").symm.trans (hsame "x"))
  exact absurd (Rule.static.inj hboth) (by decide)

/-- **What is written under a key is found just under the keys with its spec.** -/
theorem readsBack_iff (h : r.rules.Sound) :
    r.ReadsBack key look ↔ normalizeSpec look = normalizeSpec (r.stripMarker key) :=
  ⟨fun hback => by_contra fun hlook => not_readsBack_of_ne h hlook hback,
    readsBack_of_normalizeSpec h⟩

end Edit

/-! ## After any edits -/

/-- **What is written under a key can be read back under every key with its spec**, and under no
other.  Under the very key that it was written under it can be read back just if this key does not
begin with the identifier's marker, or if that marker is one that no spec begins with. -/
theorem readsBack_runAll (catalog : Catalog) (target identifier : String) (strict : Bool)
    (edits : List Edit) (key : String) :
    let r := runAll ⟨target, identifier, strict, { catalog := catalog }⟩ edits
    (∀ look, r.ReadsBack key look ↔ normalizeSpec look = normalizeSpec (r.stripMarker key))
      ∧ (r.ReadsBack key key
          ↔ (HasMarker r.identifier key → r.identifier.toList.head?.any isMarker)) := by
  intro r
  have hsound : r.rules.Sound :=
    sound_rules_runAll edits (r := ⟨target, identifier, strict, { catalog := catalog }⟩)
      (RuleTable.sound_clear { catalog := catalog })
  refine ⟨fun look => readsBack_iff hsound, ?_⟩
  rw [readsBack_iff hsound]
  exact normalizeSpec_stripMarker_iff r key

/-- A resolver without rules whose identifier is no marker of specs. -/
def percent : Resolver where
  target := "%a"
  identifier := "%"
  rules := { catalog := .builtin }

/-- **What is written under a key with the marker need not be there when the key is looked up.** -/
theorem not_readsBack :
    (percent.setStatic "%a" "x").rule? "%a" = none
      ∧ ¬ ∀ (catalog : Catalog) (target identifier : String) (strict : Bool) (edits : List Edit)
        (key : String), identifier ≠ "" →
        (runAll ⟨target, identifier, strict, { catalog := catalog }⟩ edits).ReadsBack key key := by
  have hnone : (percent.setStatic "%a" "x").rule? "%a" = none := by decide +kernel
  refine ⟨hnone, fun h => ?_⟩
  have hstatic : (percent.setStatic "%a" "x").rule? "%a" = some (.static "x") :=
    (h .builtin "%a" "%" true [] "%a" (by decide)).static "x" _ rfl
  rw [hnone] at hstatic
  cases hstatic

end Placeholders.Resolver
