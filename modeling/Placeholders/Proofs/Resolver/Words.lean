import Placeholders.Proofs.Pattern.Literal
import Placeholders.Proofs.Resolver.Outcome

/-!
# Specs that are words

A spec may be a pattern, but it need not be: a spec of letters, digits and underscores stands for
itself.  Then the placeholder is a text, and an insertion is a replacement of this text, with no
pattern involved.

* `IsWordSpec` — the specs that stand for themselves.
* `compile_placeholder` — the pattern of a placeholder is the one of its characters, whatever the
  identifier is.
* `insertWord` — an insertion as a pass over characters; `foldl_insertion` compares whole runs.
* **`resolve_eq_foldl_insertWord`** — resolving is replacing texts, one after the other.  What a
  single pass does is said by `Text.replaced_replaceWords`.
-/

namespace Placeholders.Resolver

open Pattern Text

/-- The spec has no characters but letters, digits and underscores. -/
def IsWordSpec (spec : String) : Prop := ∀ c ∈ spec.toList, c.isAlphanum ∨ c = '_'

instance : DecidablePred IsWordSpec := fun spec =>
  List.decidableBAll (fun c : Char => c.isAlphanum ∨ c = '_') spec.toList

/-- The spec is a word, and its placeholder makes no pattern that is too large. -/
def FitsWord (identifier spec : String) : Prop :=
  IsWordSpec spec ∧ compile (placeholder identifier spec) ≠ .error .tooLarge

/-- One insertion, as a pass that replaces the identifier followed by the spec. -/
def insertWord (identifier current : List Char) (step : String × String) : List Char :=
  replaceWords [(identifier ++ step.1.toList, step.2.toList)] current

/-! ## The pattern -/

/-- No character with a meaning is a letter, a digit or an underscore. -/
lemma not_isMeta_of_word {c : Char} (h : c.isAlphanum ∨ c = '_') : isMeta c = false := by
  rw [Bool.eq_false_iff]
  intro hmeta
  have hc := (List.all_eq_true (p := fun d => !d.isAlphanum && d != '_')).mp (by decide) c
    (List.contains_iff_mem.mp hmeta)
  simp only [Bool.and_eq_true, Bool.not_eq_true', bne_iff_ne] at hc
  rcases h with h | h
  · exact absurd h (Bool.eq_false_iff.mp hc.1)
  · exact hc.2 h

lemma quote_of_isWordSpec {spec : String} (h : IsWordSpec spec) :
    quote spec.toList = spec.toList := by
  have hquote : ∀ cs : List Char, (∀ c ∈ cs, c.isAlphanum ∨ c = '_') → quote cs = cs := by
    intro cs
    induction cs with
    | nil => intro _; rfl
    | cons c cs ih =>
        intro hcs
        have hc := not_isMeta_of_word (hcs c (List.mem_cons_self ..))
        have hrest := ih fun d hd => hcs d (List.mem_cons_of_mem _ hd)
        rw [quote, List.flatMap_cons, ← quote, hrest, hc]
        rfl
  exact hquote spec.toList h

/-- The pattern of a placeholder is quoted from its first character to its last. -/
lemma toList_placeholder (identifier : String) {spec : String} (h : IsWordSpec spec) :
    (placeholder identifier spec).toList = quote (identifier.toList ++ spec.toList) := by
  rw [placeholder, String.toList_append, String.toList_ofList, quote_append, quote_of_isWordSpec h]

/-- **The pattern of a placeholder is the one of its characters.** -/
theorem compile_placeholder {identifier spec : String} (h : IsWordSpec spec)
    (hfits : compile (placeholder identifier spec) ≠ .error .tooLarge) :
    compile (placeholder identifier spec)
      = .ok ⟨placeholder identifier spec, literal (identifier.toList ++ spec.toList)⟩ := by
  refine compile_of_read? ?_ hfits
  rw [toList_placeholder identifier h]
  exact read?_quote _

/-! ## The insertions -/

section Insertions

variable {identifier : String}

/-- Inserting for a word replaces the placeholder as a text. -/
lemma insertion_of_fitsWord (hid : identifier ≠ "") {step : String × String}
    (h : FitsWord identifier step.1) (current : String) :
    insertion identifier current step
      = String.ofList (insertWord identifier.toList current.toList step) := by
  have hne : identifier.toList ++ step.1.toList ≠ [] := by
    simp [hid]
  rw [insertion, compile_placeholder h.1 h.2]
  exact replaceAll_literal hne _ step.2 current

/-- All insertions of a queue of words, on characters. -/
lemma foldl_insertion (hid : identifier ≠ "") :
    ∀ (steps : List (String × String)) (current : String),
      (∀ step ∈ steps, FitsWord identifier step.1) →
      steps.foldl (insertion identifier) current
        = String.ofList (steps.foldl (insertWord identifier.toList) current.toList)
  | [], current, _ => by rw [List.foldl_nil, List.foldl_nil, String.ofList_toList]
  | step :: steps, current, h => by
      have hstep := h step (List.mem_cons_self ..)
      have ih := foldl_insertion hid steps (insertion identifier current step)
        fun s hs => h s (List.mem_cons_of_mem _ hs)
      rw [List.foldl_cons, List.foldl_cons, ih, insertion_of_fitsWord hid hstep,
        String.toList_ofList]

end Insertions

/-! ## Resolving -/

/-- **Resolving with words as specs is replacing texts.**  In the order of the rules, and for the
rules that call for a text, every leftmost occurrence of the identifier followed by the spec is
replaced in what was made so far.  The identifier may be any text. -/
theorem resolve_eq_foldl_insertWord (r : Resolver) (source : Json)
    (text : RuleEntry → Option String) (hid : r.identifier ≠ "") (hperm : r.strict = false)
    (hwords : ∀ entry ∈ r.rules.entries, IsWordSpec entry.spec)
    (hfits : ∀ entry ∈ r.rules.entries,
      compile (placeholder r.identifier entry.spec) ≠ .error .tooLarge)
    (hord : source.Ordered) (hstr : source.HoldsStrings)
    (hcalls : ∀ entry ∈ r.rules.entries, Calls source entry (text entry)) :
    r.resolve source
      = .ok (String.ofList ((queued text r.rules.entries).foldl
          (insertWord r.identifier.toList) r.target.toList)) := by
  rw [resolve_permissive hid hperm hord hstr hcalls, foldl_insertion hid]
  exact forall_mem_queued (P := FitsWord r.identifier) fun entry hentry _ _ =>
    ⟨hwords entry hentry, hfits entry hentry⟩

/-- An identifier that means something in a pattern and overlaps itself. -/
def dollars : Resolver where
  target := "$$$a $$ab $a"
  identifier := "$$"
  strict := false
  rules :=
    { catalog := {}
      entries := [⟨"a", .static "none"⟩, ⟨"b", .static "$1"⟩]
      positions := [("a", 0), ("b", 1)] }

theorem resolve_dollars :
    dollars.resolve (.object [(":a", .string "$\\$")]) = .ok "$$\\$ $\\$b $a" := by
  have hord : (Json.object [(":a", .string "$\\$")]).Ordered := by decide
  have hreads : Source.Reads ⟨[("a", "$\\$")]⟩ (.object [(":a", .string "$\\$")]) :=
    Source.reads_of_ofJson hord rfl
  have h := resolve_eq_foldl_insertWord dollars (.object [(":a", .string "$\\$")])
    (fun entry => if entry.spec = "a" then some "$\\$" else some "$1") (by decide) rfl (by decide)
    (fun entry hentry => ne_tooLarge_of_isOk (by revert entry; decide +kernel)) hord (by decide)
    (fun entry hentry => (calls_iff_replacement hreads).mpr (by revert entry; decide +kernel))
  rw [h]
  decide +kernel

end Placeholders.Resolver
