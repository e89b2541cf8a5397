import Placeholders.Proofs.Pattern.Literal

/-!
# A text in front of a pattern

The pattern of a placeholder is a quoted text with a spec right behind it, and nothing keeps the two
apart.  A spec can therefore take hold of the text: a choice in it splits the text off, and an
operator at its start works on the last character of the text.  If the spec is a pattern of its own
and no choice stands outside of its groups, neither can happen, and the text stays in front of all
that the spec matches.

**Reading.**  The reader never looks below the pieces that it has put there itself.  `atop` puts
pieces below a reading, at the bottom of its outermost level, and there is one lemma for each thing
that a reader can do: it does the same over these pieces.  The exception is a new branch outside of
all groups; `outside` keeps the branches of the outermost level, and they never become fewer.

* `StandsAlone` — the specs that cannot take hold of what is in front of them.
* `step_atop`, `readFrom_atop` — a step and a run over other pieces.
* **`read?_quote_append`** — a quoted text and such a spec are read as the characters of the text
  and then as what the spec is read as.

**Matching.**  **`replaceAll_of_not_isInfix`**: such a pattern leaves a text alone in which the
quoted one does not occur.
-/

namespace Placeholders.Pattern

/-- Is the term a choice? -/
def Term.isChoice : Term → Bool
  | .alt _ _ => true
  | _ => false

/-- The text is a pattern of its own, and no choice stands outside of its groups. -/
def StandsAlone (spec : List Char) : Prop := (read? spec).any (!·.isChoice)

instance : DecidablePred StandsAlone := fun spec =>
  inferInstanceAs (Decidable ((read? spec).any (!·.isChoice) = true))

/-! ## Pieces below a reading -/

/-- Pieces of the current level, with others below them if this is the outermost level. -/
def piecesAtop (base : List Piece) (outer : List OpenGroup) (pieces : List Piece) : List Piece :=
  match outer with
  | [] => pieces ++ base
  | _ :: _ => pieces

/-- Open groups, with pieces below those of the outermost level. -/
def groupsAtop (base : List Piece) : List OpenGroup → List OpenGroup
  | [] => []
  | g :: outer => { g with pieces := piecesAtop base outer g.pieces } :: groupsAtop base outer

/-- The branches of the outermost level. -/
def outsideOf (branches : List (Nested Term)) : List OpenGroup → List (Nested Term)
  | [] => branches
  | g :: outer => outsideOf g.branches outer

namespace Reading

/-- The reading with pieces below its outermost level. -/
def atop (base : List Piece) (r : Reading) : Reading :=
  { r with pieces := piecesAtop base r.outer r.pieces, outer := groupsAtop base r.outer }

/-- The branches of its outermost level. -/
def outside (r : Reading) : List (Nested Term) := outsideOf r.branches r.outer

end Reading

variable (base : List Piece) {r r' : Reading}

lemma piecesAtop_cons (p : Piece) (outer : List OpenGroup) (pieces : List Piece) :
    piecesAtop base outer (p :: pieces) = p :: piecesAtop base outer pieces := by
  cases outer <;> rfl

/-! ## What a reader can do -/

/-- A reader does the same over other pieces, and adds no branch outside of all groups. -/
def Keeps (f : Reading → Option Reading) : Prop :=
  ∀ ⦃base r r'⦄, f r = some r' → f (r.atop base) = some (r'.atop base) ∧ r'.outside = r.outside

lemma push_atop (t : Term) (depth : Nat) :
    (r.push t depth).atop base = (r.atop base).push t depth := by
  simp only [Reading.push, Reading.atop, piecesAtop_cons]

lemma keeps_pushAtom (atom : Atom) : Keeps fun r => r.pushAtom atom := by
  intro base r r' h
  cases atom with
  | char c byte =>
      simp only [Reading.pushAtom] at h ⊢
      split_ifs at h with hbyte
      obtain rfl := Option.some.inj h
      exact ⟨(if_neg hbyte).trans (congrArg some (push_atop ..).symm), rfl⟩
  | set s =>
      obtain rfl := Option.some.inj h
      exact ⟨congrArg some (push_atop ..).symm, rfl⟩
  | look l =>
      obtain rfl := Option.some.inj h
      exact ⟨congrArg some (push_atop ..).symm, rfl⟩

/-- What is repeated is a piece that the reader has put there. -/
lemma keeps_repeatLast (least : Nat) (most : Option Nat) (greedy : Bool) :
    Keeps fun r => r.repeatLast least most greedy := by
  intro base r r' h
  obtain ⟨flags, pieces, branches, outer, captures, names⟩ := r
  match pieces, h with
  | .term t :: pieces, h =>
      obtain rfl := Option.some.inj h
      refine ⟨?_, rfl⟩
      simp only [Reading.repeatLast, Reading.atop, piecesAtop_cons]

lemma keeps_closeGroup : Keeps Reading.closeGroup := by
  intro base r r' h
  obtain ⟨flags, pieces, branches, outer, captures, names⟩ := r
  match outer, h with
  | g :: outer, h =>
      obtain rfl := Option.some.inj h
      refine ⟨?_, rfl⟩
      simp only [Reading.closeGroup, Reading.atop, groupsAtop, piecesAtop_cons]
      rfl

/-- The same for a reader that also says what is left of the text. -/
def KeepsRest (f : Reading → Option (Reading × List Char)) : Prop :=
  ∀ ⦃base r r' rest⦄, f r = some (r', rest) →
    f (r.atop base) = some (r'.atop base, rest) ∧ r'.outside = r.outside

lemma Keeps.bind_rest {f : Reading → Option Reading} (h : Keeps f) (rest : List Char) :
    KeepsRest fun r => f r >>= fun r => pure (r, rest) := by
  intro base r r' rest' hr
  obtain ⟨r₁, hr₁, heq⟩ := Option.bind_eq_some_iff.mp hr
  obtain ⟨rfl, rfl⟩ := Prod.mk.inj (Option.some.inj heq)
  obtain ⟨hatop, houtside⟩ := h hr₁
  exact ⟨Option.bind_eq_some_iff.mpr ⟨_, hatop, rfl⟩, houtside⟩

lemma keepsRest_readUncounted (least : Nat) (most : Option Nat) (cs : List Char) :
    KeepsRest fun r => readUncounted r least most cs :=
  (keeps_repeatLast least most (readLazy cs).1).bind_rest (readLazy cs).2

/-- What a counted repetition does when its bounds are known. -/
def closeCounted (r : Reading) (least : Nat) (most : Option Nat) (cs : List Char) :
    Option (Reading × List Char) :=
  match cs with
  | '\x7d' :: rest =>
    if most.getD least < least then none
    else readUncounted r least most (r.flags.skip rest)
  | _ => none

lemma keepsRest_closeCounted (least : Nat) (most : Option Nat) (cs : List Char) :
    KeepsRest fun r => closeCounted r least most cs := by
  intro base r r' rest h
  have hflags : (r.atop base).flags = r.flags := rfl
  simp only [closeCounted, hflags] at h ⊢
  split at h
  · split_ifs at h ⊢ with hbounds
    exact keepsRest_readUncounted _ _ _ h
  · cases h

/-- The bounds have nothing to do with the pieces. -/
lemma keepsRest_readCounted (cs : List Char) : KeepsRest fun r => readCounted r cs := by
  intro base r r' rest h
  have hflags : (r.atop base).flags = r.flags := rfl
  simp only [readCounted, hflags] at h ⊢
  obtain ⟨least, hleast, h⟩ := Option.bind_eq_some_iff.mp h
  rw [hleast]
  split at h
  · split at h
    · exact keepsRest_closeCounted least none ('\x7d' :: _) h
    · obtain ⟨⟨most, tail⟩, hmost, h⟩ := Option.bind_eq_some_iff.mp h
      rw [hmost]
      exact keepsRest_closeCounted least most tail h
  · exact keepsRest_closeCounted least (some least) _ h

lemma keepsRest_readNamed (cs : List Char) : KeepsRest fun r => readNamed r cs := by
  intro base r r' rest h
  simp only [readNamed] at h ⊢
  obtain ⟨⟨name, tail⟩, hname, h⟩ := Option.bind_eq_some_iff.mp h
  rw [hname]
  split_ifs at h with hused
  obtain ⟨rfl, rfl⟩ := Prod.mk.inj (Option.some.inj h)
  exact ⟨if_neg hused, rfl⟩

lemma keepsRest_readFlagged (cs : List Char) : KeepsRest fun r => readFlagged r cs := by
  intro base r r' rest h
  have hflags : (r.atop base).flags = r.flags := rfl
  simp only [readFlagged, hflags] at h ⊢
  obtain ⟨listed, hlisted, h⟩ := Option.bind_eq_some_iff.mp h
  rw [hlisted]
  split_ifs at h with hgroup hempty
  · obtain ⟨rfl, rfl⟩ := Prod.mk.inj (Option.some.inj h)
    exact ⟨if_pos hgroup, rfl⟩
  · obtain ⟨rfl, rfl⟩ := Prod.mk.inj (Option.some.inj h)
    refine ⟨(if_neg hgroup).trans ((if_neg hempty).trans ?_), rfl⟩
    simp only [Reading.atop, piecesAtop_cons]
    rfl

lemma keepsRest_readGroup (cs : List Char) : KeepsRest fun r => readGroup r cs := by
  intro base r r' rest h
  have hflags : (r.atop base).flags = r.flags := rfl
  simp only [readGroup, hflags] at h ⊢
  split at h
  · cases h
  · cases h
  · cases h
  · cases h
  · exact keepsRest_readNamed _ h
  · exact keepsRest_readNamed _ h
  · exact keepsRest_readFlagged _ h
  · obtain ⟨rfl, rfl⟩ := Prod.mk.inj (Option.some.inj h)
    exact ⟨rfl, rfl⟩

/-! ## The loop over other pieces -/

lemma keepsRest_push (t : Term) (depth : Nat) (rest : List Char) :
    KeepsRest fun r => some (r.push t depth, rest) := by
  intro base r r' rest' h
  obtain ⟨rfl, rfl⟩ := Prod.mk.inj (Option.some.inj h)
  exact ⟨congrArg (fun r => some (r, rest)) (push_atop base t depth).symm, rfl⟩

/-- What is put on top does not have to be known beforehand. -/
lemma KeepsRest.bind {α : Type} {f : α → Reading → Option (Reading × List Char)}
    (h : ∀ a, KeepsRest (f a)) (o : Option α) : KeepsRest fun r => o.bind fun a => f a r := by
  intro base r r' rest hr
  obtain ⟨a, ha, hr⟩ := Option.bind_eq_some_iff.mp hr
  obtain ⟨hatop, houtside⟩ := h a hr
  exact ⟨Option.bind_eq_some_iff.mpr ⟨a, ha, hatop⟩, houtside⟩

/-- All that begins with a character other than that of a choice. -/
lemma keepsRest_step {c : Char} (hc : c ≠ '|') (rest : List Char) :
    KeepsRest fun r => step r c rest := by
  intro base r r' rest' h
  have hflags : (r.atop base).flags = r.flags := rfl
  simp only [step, hflags, Option.map_eq_bind] at h ⊢
  split at h
  · exact keepsRest_readGroup _ h
  · exact keeps_closeGroup.bind_rest _ h
  · exact absurd rfl hc
  · exact KeepsRest.bind (fun _ => keepsRest_push _ _ _) (readClass r.flags rest) h
  · exact keepsRest_readUncounted _ _ _ h
  · exact keepsRest_readUncounted _ _ _ h
  · exact keepsRest_readUncounted _ _ _ h
  · exact keepsRest_readCounted _ h
  · exact KeepsRest.bind (fun a => (keeps_pushAtom a.1).bind_rest a.2)
      (readEscape r.flags rest) h
  · exact KeepsRest.bind (fun _ => keepsRest_push _ _ _) r.flags.dot h
  · exact keepsRest_push _ _ _ h
  · exact keepsRest_push _ _ _ h
  · exact keepsRest_push _ _ _ h

/-- A new branch is one of the outermost level, or it is inside of a group and has nothing to do
with the pieces below. -/
lemma nextBranch_atop (h : r.nextBranch.outside = []) :
    (r.atop base).nextBranch = r.nextBranch.atop base ∧ r.outside = [] := by
  obtain ⟨flags, pieces, branches, outer, captures, names⟩ := r
  cases outer with
  | nil => exact absurd h (List.cons_ne_nil _ _)
  | cons g outer => exact ⟨rfl, h⟩

/-- **A step over other pieces.**  If it leaves no branch outside of all groups, there was none. -/
lemma step_atop {c : Char} {rest rest' : List Char} (h : step r c rest = some (r', rest'))
    (houtside : r'.outside = []) :
    step (r.atop base) c rest = some (r'.atop base, rest') ∧ r.outside = [] := by
  by_cases hc : c = '|'
  · subst hc
    obtain ⟨rfl, rfl⟩ := Prod.mk.inj (Option.some.inj h)
    obtain ⟨hatop, hbefore⟩ := nextBranch_atop base houtside
    exact ⟨congrArg (fun r => some (r, rest)) hatop, hbefore⟩
  · obtain ⟨hatop, hsame⟩ := keepsRest_step hc rest h
    exact ⟨hatop, hsame.symm.trans houtside⟩

/-- **A run over other pieces.** -/
lemma readFrom_atop {fuel : Nat} {cs : List Char} (h : readFrom fuel r cs = some r')
    (houtside : r'.outside = []) :
    readFrom fuel (r.atop base) cs = some (r'.atop base) ∧ r.outside = [] := by
  induction fuel generalizing r cs with
  | zero => cases h
  | succ fuel ih =>
      have hflags : (r.atop base).flags = r.flags := rfl
      simp only [readFrom, hflags] at h ⊢
      split at h
      · obtain rfl := Option.some.inj h
        exact ⟨rfl, houtside⟩
      · split at h
        · next r₁ rest hstep =>
            obtain ⟨hrun, houtside₁⟩ := ih h
            obtain ⟨hatop, hbefore⟩ := step_atop base hstep houtside₁
            rw [hatop]
            exact ⟨hrun, hbefore⟩
        · cases h

/-- More fuel than is needed does not matter. -/
lemma readFrom_mono {fuel fuel' : Nat} (hle : fuel ≤ fuel') {cs : List Char}
    (h : readFrom fuel r cs = some r') : readFrom fuel' r cs = some r' := by
  induction fuel generalizing fuel' r cs with
  | zero => cases h
  | succ fuel ih =>
      obtain ⟨fuel', rfl⟩ := Nat.exists_eq_succ_of_ne_zero (Nat.ne_zero_of_lt hle)
      simp only [readFrom] at h ⊢
      split at h
      · exact h
      · split at h
        · exact ih (Nat.le_of_succ_le_succ hle) h
        · cases h

/-! ## A quoted text in front -/

lemma isChoice_choice {ts : List Term} (h : 2 ≤ ts.length) : (Term.choice ts).isChoice := by
  match ts, h with
  | _ :: _ :: _, _ => rfl

/-- What is no choice has one branch only, and is the concatenation of its pieces. -/
lemma branches_of_not_isChoice (h : r.body.value.isChoice = false) :
    r.branches = [] ∧ r.body.value = Term.concat (r.pieces.reverse.map Piece.toTerm) := by
  obtain ⟨flags, pieces, branches, outer, captures, names⟩ := r
  cases branches with
  | nil => exact ⟨rfl, joinPieces_value pieces⟩
  | cons b branches =>
      have hlong : 2 ≤ ((joinPieces pieces :: b :: branches).reverse.map (·.value)).length := by
        simp
      exact absurd (isChoice_choice hlong) (Bool.eq_false_iff.mp h)

/-- What a text is read as, by way of the reading at its end. -/
lemma exists_reading {cs : List Char} {t : Term} (h : read? cs = some t) :
    ∃ r, readFrom (cs.length + 1) {} cs = some r ∧ r.outer = [] ∧ r.body.value = t := by
  simp only [read?] at h
  split at h
  · cases h
  · next r hr =>
      split_ifs at h with hends
      exact ⟨r, hr, List.isEmpty_iff.mp hends.1, Option.some.inj h⟩

/-- The pieces of a text with no group open and no branch closed come on top of those below. -/
lemma atop_of_outer (h : r.outer = []) :
    r.atop base = { r with pieces := r.pieces ++ base } := by
  obtain ⟨flags, pieces, branches, outer, captures, names⟩ := r
  obtain rfl : outer = [] := h
  rfl

/-- **A quoted text in front of a spec that stands alone** is read as its characters, and behind
them stands what the spec is read as. -/
theorem read?_quote_append {w spec : List Char} (hspec : StandsAlone spec) {u : Term}
    (h : read? (quote w ++ spec) = some u) :
    ∃ ts, read? spec = some (Term.concat ts) ∧ u = Term.concat (charTerms w ++ ts) := by
  obtain ⟨t, ht, hchoice⟩ := (Option.any_eq_true _ _).mp hspec
  obtain ⟨r, hr, houter, rfl⟩ := exists_reading ht
  obtain ⟨hbranches, hbody⟩ := branches_of_not_isChoice ((Bool.not_eq_true' _).mp hchoice)
  have houtside : r.outside = [] := by rw [Reading.outside, houter, hbranches]; rfl
  -- the spec over the characters of the text
  have hspec : readFrom (spec.length + 1) { pieces := charPieces w } spec
      = some { r with pieces := r.pieces ++ charPieces w } := by
    rw [← atop_of_outer (charPieces w) houter]
    exact (readFrom_atop (charPieces w) hr houtside).1
  -- the text and then the spec
  obtain ⟨k, hk⟩ := Nat.exists_eq_add_of_le (length_le_length_quote w)
  have hfuel : (quote w ++ spec).length + 1 = w.length + (k + (spec.length + 1)) := by
    rw [List.length_append, hk]; omega
  have hrun : readFrom ((quote w ++ spec).length + 1) {} (quote w ++ spec)
      = some { r with pieces := r.pieces ++ charPieces w } := by
    rw [hfuel, readFrom_quote w _ rfl, List.append_nil]
    exact readFrom_mono (Nat.le_add_left _ k) hspec
  refine ⟨r.pieces.reverse.map Piece.toTerm, ht.trans (congrArg some hbody), ?_⟩
  obtain ⟨r', hr', -, rfl⟩ := exists_reading h
  obtain rfl := Option.some.inj (hrun.symm.trans hr')
  rw [Reading.body, hbranches]
  simp only [joinPieces_value, List.reverse_append, List.map_append, charPieces_terms]

/-! ## Matching -/

/-- Characters with terms behind them match only where the characters stand. -/
lemma matchAt_of_not_isPrefix {w : List Char} (ts : List Term) (before : Option Char)
    {text : List Char} (h : ¬ w <+: text) :
    matchAt (.ofTerm (Term.concat (charTerms w ++ ts))) before text = none := by
  rw [← List.isPrefixOf_iff_prefix] at h
  by_cases hts : ts = []
  · rw [hts, List.append_nil]
    exact (matchAt_literal w before text).trans (if_neg h)
  · rw [concat_charTerms_append w hts, ofTerm_after, matchAt_after, if_neg h]

/-- Where nothing matches, nothing is replaced. -/
lemma splice_of_matchAt_none {e : Expr} (replacement : Groups → List Char) :
    ∀ (text : List Char) (ended : Bool) (before : Option Char),
      (∀ before, ∀ rest, rest <:+ text → matchAt e before rest = none) →
      splice e replacement 0 ended before text = text
  | [], ended, before, h => by rw [splice, h before [] List.suffix_rfl]
  | c :: text, ended, before, h => by
      rw [splice, h before (c :: text) List.suffix_rfl]
      exact congrArg (c :: ·) (splice_of_matchAt_none replacement text false (some c)
        fun before rest hrest => h before rest (hrest.trans (List.suffix_cons c text)))

/-- **A quoted text in front of a spec that stands alone** is in every match, so a text is left
alone in which it does not occur. -/
theorem replaceAll_of_not_isInfix {w : List Char} {source spec : String} {p : Pattern}
    (hsource : source.toList = quote w ++ spec.toList) (hspec : StandsAlone spec.toList)
    (hp : compile source = .ok p) (replacement : Groups → List Char) {text : String}
    (h : ¬ w <:+: text.toList) : p.replaceAll replacement text = text := by
  obtain ⟨ts, rfl⟩ : ∃ ts, p = ⟨source, .ofTerm (Term.concat (charTerms w ++ ts))⟩ := by
    simp only [compile] at hp
    split at hp
    · next u hu =>
        rw [hsource] at hu
        obtain ⟨ts, -, rfl⟩ := read?_quote_append hspec hu
        split_ifs at hp with hfits
        exact ⟨ts, (Except.ok.inj hp).symm⟩
    · cases hp
  have hnone (before : Option Char) (rest : List Char) (hrest : rest <:+ text.toList) :
      matchAt (.ofTerm (Term.concat (charTerms w ++ ts))) before rest = none :=
    matchAt_of_not_isPrefix ts before fun hpre =>
      h (List.infix_iff_prefix_suffix.mpr ⟨rest, hpre, hrest⟩)
  rw [replaceAll, splice_of_matchAt_none replacement text.toList false none hnone,
    String.ofList_toList]

end Placeholders.Pattern
