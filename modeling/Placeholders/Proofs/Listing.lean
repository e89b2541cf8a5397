import Placeholders.Listing
import Placeholders.Proofs.Config.Build

/-!
# Reading a listing back

A listing shows specs and fixed texts as they are, between tabs and line breaks of its own.  As long
as these can be told from those in the texts, nothing of what is shown gets lost.

* `Row` — what a listing shows of a rule; `Row.line` — the line of it.
* `readListing` — reads rows back, without a look at the rules.
* `Row.Legible` — no tab in the spec, no line break in the fixed text; `Clear` — names that can
  stand between arrows.
* `readRows_append` — one row is read back, whatever comes behind it.
* `splitOn_lines_iff` — when a text made of lines falls into just these lines.
* `Config.filter_of_build` — the filters of what was checked and built are substitutions and filters
  of the catalogue; their names do not run into the arrows between them (`Config.named_of_build`).
* **`rulesListing_eq_iff`** — listings of legible rows are equal just if the rows are.
* `not_rulesListing_inj` — a fixed text with a line break can look like two rules.
-/

namespace Placeholders

/-! ## Rows -/

/-- What a listing shows of a rule: a fixed text, or the names of the filters. -/
inductive Detail where
  | static (text : String)
  | chain (names : List String)
  deriving DecidableEq

/-- The word for the kind of a rule. -/
def Detail.kind : Detail → String
  | .static _ => "static"
  | .chain _ => "chain"

/-- The text of a detail. -/
def Detail.text : Detail → String
  | .static text => text
  | .chain names => String.intercalate " -> " names

/-- What a listing shows of an entry. -/
structure Row where
  spec : String
  detail : Detail
  deriving DecidableEq

namespace Row

/-- The line of a row: spec, kind and detail. -/
def line (row : Row) : List Char :=
  row.spec.toList ++ '\t' :: (row.detail.kind.toList ++ '\t' :: row.detail.text.toList)

/-- There is no tab in the spec and no line break in a fixed text. -/
def Legible : Row → Prop
  | ⟨spec, .static text⟩ => '\t' ∉ spec.toList ∧ '\n' ∉ text.toList
  | ⟨spec, .chain _⟩ => '\t' ∉ spec.toList

instance : DecidablePred Legible
  | ⟨spec, .static text⟩ => inferInstanceAs (Decidable ('\t' ∉ spec.toList ∧ '\n' ∉ text.toList))
  | ⟨spec, .chain _⟩ => inferInstanceAs (Decidable ('\t' ∉ spec.toList))

end Row

/-- There is no line break in a name and none of the signs that an arrow is made of. -/
def Clear (name : String) : Prop := ∀ c ∈ name.toList, c ∉ ['\n', ' ', '-', '>']

instance : DecidablePred Clear := fun name => List.decidableBAll _ name.toList

/-- A chain has names, and they are clear. -/
def Row.Named (row : Row) : Prop :=
  ∀ names, row.detail = .chain names → names ≠ [] ∧ ∀ name ∈ names, Clear name

/-- The row of an entry. -/
def RuleEntry.row (e : RuleEntry) : Row where
  spec := e.spec
  detail :=
    match e.rule with
    | .static text => .static text
    | .chain filters => .chain (filters.map (·.name))

/-- The rows of a resolver in the order of substitution. -/
def Resolver.rows (r : Resolver) : List Row := r.rules.entries.map RuleEntry.row

/-- **A listing has the line of each row, with a line break behind it.** -/
theorem toList_rulesListing (r : Resolver) :
    (rulesListing r).toList = r.rows.flatMap fun row => row.line ++ ['\n'] := by
  have hline (e : RuleEntry) : (ruleLine e).toList = e.row.line ++ ['\n'] := by
    rw [ruleLine, RuleEntry.row, Row.line]
    cases e.rule <;> simp [Detail.kind, Detail.text]
  rw [rulesListing, String.toList_join, Resolver.rows, List.flatMap_map, List.flatMap_map]
  exact List.flatMap_congr fun e _ => hline e

/-! ## Reading -/

/-- What stands before the first sign of some kind, and what stands behind it. -/
def cutAt (sign : Char) (cs : List Char) : List Char × List Char :=
  (cs.takeWhile (· != sign), (cs.dropWhile (· != sign)).tail)

/-- The names in a chain.  What is left of an arrow without blanks and shaft is its head. -/
def readNames (cs : List Char) : List String :=
  ((cs.filter fun c => c != ' ' && c != '-').splitOn '>').map String.ofList

/-- The detail of a rule of some kind. -/
def readDetail (kind detail : List Char) : Option Detail :=
  if kind = "static".toList then some (.static (String.ofList detail))
  else if kind = "chain".toList then some (.chain (readNames detail))
  else none

/-- Reads rows up to the end: a spec and a kind up to a tab each, a detail up to a line break. -/
def readRows : Nat → List Char → Option (List Row)
  | 0, cs => if cs.isEmpty then some [] else none
  | fuel + 1, cs =>
    if cs.isEmpty then some []
    else do
      let (spec, cs) := cutAt '\t' cs
      let (kind, cs) := cutAt '\t' cs
      let (detail, cs) := cutAt '\n' cs
      let detail ← readDetail kind detail
      let rows ← readRows fuel cs
      pure (⟨String.ofList spec, detail⟩ :: rows)

/-- Reads a listing.  Each row takes one character at least. -/
def readListing (text : String) : Option (List Row) := readRows text.length text.toList

lemma cutAt_append {sign : Char} {before : List Char} (h : sign ∉ before) (rest : List Char) :
    cutAt sign (before ++ sign :: rest) = (before, rest) := by
  have hall : ∀ c ∈ before, (c != sign) = true := fun c hc => bne_iff_ne.mpr fun heq => h (heq ▸ hc)
  rw [cutAt, List.takeWhile_append_of_pos hall, List.dropWhile_append_of_pos hall]
  simp

/-- Clear names are read back. -/
lemma readNames_intercalate : ∀ {names : List String}, names ≠ [] →
    (∀ name ∈ names, Clear name) →
      readNames (String.intercalate " -> " names).toList = names
  | [], hne, _ => absurd rfl hne
  | name :: names, _, h => by
      obtain ⟨hname, hnames⟩ := List.forall_mem_cons.mp h
      have hkept : (name.toList.filter fun c => c != ' ' && c != '-') = name.toList :=
        List.filter_eq_self.mpr fun c hc => by
          have hother := hname c hc
          simp_all
      have hhead : '>' ∉ name.toList := fun hc => hname _ hc (by decide)
      cases names with
      | nil =>
          rw [readNames, String.intercalate_singleton, hkept, List.splitOn_eq_singleton hhead,
            List.map_singleton, String.ofList_toList]
      | cons next names =>
          have ih := readNames_intercalate (List.cons_ne_nil next names) hnames
          have harrow : (" -> ".toList.filter fun c => c != ' ' && c != '-') = ['>'] := by decide
          rw [readNames] at ih ⊢
          rw [String.intercalate_cons_cons, String.toList_append, String.toList_append,
            List.filter_append, List.filter_append, hkept, harrow, List.append_assoc,
            List.singleton_append, List.splitOn_append_cons_self_of_not_mem hhead, List.map_cons,
            ih, String.ofList_toList]

/-- A detail is read back. -/
lemma readDetail_text {row : Row} (h : row.Named) :
    readDetail row.detail.kind.toList row.detail.text.toList = some row.detail := by
  rw [readDetail]
  cases hdetail : row.detail with
  | static text => rw [Detail.kind, if_pos rfl, Detail.text, String.ofList_toList]
  | chain names =>
      obtain ⟨hne, hnames⟩ := h names hdetail
      rw [Detail.kind, if_neg (by decide), if_pos rfl, Detail.text,
        readNames_intercalate hne hnames]

lemma mem_intercalate {c : Char} {separator : String} : ∀ {names : List String},
    c ∈ (String.intercalate separator names).toList →
      c ∈ separator.toList ∨ ∃ name ∈ names, c ∈ name.toList
  | [], h => absurd h List.not_mem_nil
  | [name], h => by
      rw [String.intercalate_singleton] at h
      exact .inr ⟨name, List.mem_singleton_self _, h⟩
  | name :: next :: names, h => by
      rw [String.intercalate_cons_cons, String.toList_append, String.toList_append,
        List.mem_append, List.mem_append] at h
      rcases h with (h | h) | h
      · exact .inr ⟨name, List.mem_cons_self .., h⟩
      · exact .inl h
      · refine (mem_intercalate h).imp_right ?_
        rintro ⟨later, hlater, hc⟩
        exact ⟨later, List.mem_cons_of_mem _ hlater, hc⟩

lemma Detail.not_mem_kind (d : Detail) : '\t' ∉ d.kind.toList ∧ '\n' ∉ d.kind.toList := by
  cases d with
  | static text => exact (by decide : '\t' ∉ "static".toList ∧ '\n' ∉ "static".toList)
  | chain names => exact (by decide : '\t' ∉ "chain".toList ∧ '\n' ∉ "chain".toList)

lemma Row.Legible.not_mem_spec : ∀ {row : Row}, row.Legible → '\t' ∉ row.spec.toList
  | ⟨_, .static _⟩, h => h.1
  | ⟨_, .chain _⟩, h => h

/-- There is no line break in the detail of a legible row. -/
lemma not_mem_text : ∀ {row : Row}, row.Legible → row.Named → '\n' ∉ row.detail.text.toList
  | ⟨_, .static _⟩, hlegible, _ => hlegible.2
  | ⟨_, .chain names⟩, _, h => by
      obtain ⟨-, hnames⟩ := h names rfl
      intro hmem
      rcases mem_intercalate hmem with harrow | ⟨name, hname, hc⟩
      · exact absurd harrow (by decide)
      · exact hnames name hname _ hc (List.mem_cons_self ..)

lemma mem_line_iff {row : Row} (hlegible : row.Legible) (h : row.Named) :
    '\n' ∈ row.line ↔ '\n' ∈ row.spec.toList := by
  simp [Row.line, row.detail.not_mem_kind, not_mem_text hlegible h]

/-- **A legible row is read back, whatever comes behind it.** -/
theorem readRows_append {row : Row} (hlegible : row.Legible) (h : row.Named) (fuel : Nat)
    (rest : List Char) :
    readRows (fuel + 1) (row.line ++ '\n' :: rest) = (readRows fuel rest).map (row :: ·) := by
  have hcut : cutAt '\t' (row.line ++ '\n' :: rest)
      = (row.spec.toList,
          row.detail.kind.toList ++ '\t' :: (row.detail.text.toList ++ '\n' :: rest)) := by
    rw [Row.line, List.append_assoc, List.cons_append, List.append_assoc, List.cons_append,
      cutAt_append hlegible.not_mem_spec]
  have hsome : (row.line ++ '\n' :: rest).isEmpty = false := by
    rw [List.isEmpty_eq_false_iff]
    exact List.append_ne_nil_of_right_ne_nil _ (List.cons_ne_nil _ _)
  rw [readRows, hsome, hcut]
  simp only [cutAt_append row.detail.not_mem_kind.1, cutAt_append (not_mem_text hlegible h),
    readDetail_text h, String.ofList_toList]
  cases readRows fuel rest <;> rfl

lemma readRows_flatMap : ∀ {rows : List Row} {fuel : Nat}, rows.length ≤ fuel →
    (∀ row ∈ rows, row.Legible) → (∀ row ∈ rows, row.Named) →
      readRows fuel (rows.flatMap fun row => row.line ++ ['\n']) = some rows
  | [], 0, _, _, _ => rfl
  | [], _ + 1, _, _, _ => rfl
  | row :: rows, fuel + 1, hfuel, hlegible, h => by
      obtain ⟨hrow, hrows⟩ := List.forall_mem_cons.mp hlegible
      obtain ⟨hnamed, hnameds⟩ := List.forall_mem_cons.mp h
      rw [List.flatMap_cons, List.append_assoc, List.singleton_append,
        readRows_append hrow hnamed, readRows_flatMap (Nat.le_of_succ_le_succ hfuel) hrows hnameds]
      rfl

lemma length_le_length_flatMap : ∀ rows : List Row,
    rows.length ≤ (rows.flatMap fun row => row.line ++ ['\n']).length
  | [] => Nat.le_refl _
  | row :: rows => by
      have ih := length_le_length_flatMap rows
      rw [List.flatMap_cons, List.length_append, List.length_append, List.length_cons,
        List.length_singleton]
      omega

/-- **Legible rows are read back.** -/
theorem readListing_of_legible {r : Resolver} (hlegible : ∀ row ∈ r.rows, row.Legible)
    (h : ∀ row ∈ r.rows, row.Named) : readListing (rulesListing r) = some r.rows := by
  have hlength : r.rows.length ≤ (rulesListing r).length := by
    rw [← String.length_toList, toList_rulesListing]
    exact length_le_length_flatMap r.rows
  rw [readListing, toList_rulesListing]
  exact readRows_flatMap hlength hlegible h

/-! ## Lines -/

/-- A text that is made of lines falls into just these lines if none has a line break in it. -/
lemma splitOn_lines_iff : ∀ {lines : List (List Char)},
    (lines.flatMap (· ++ ['\n'])).splitOn '\n' = lines ++ [[]] ↔ ∀ line ∈ lines, '\n' ∉ line
  | [] => by simp
  | line :: lines => by
      rw [List.flatMap_cons, List.append_assoc, List.singleton_append, List.forall_mem_cons,
        ← splitOn_lines_iff]
      by_cases hline : '\n' ∈ line
      · refine iff_of_false (fun heq => ?_) fun h => h.1 hline
        obtain ⟨before, after, rfl, hbefore⟩ := List.eq_append_cons_of_mem hline
        rw [List.append_assoc, List.cons_append,
          List.splitOn_append_cons_self_of_not_mem hbefore] at heq
        -- the first line is too short to be all of it
        have hlength := congrArg List.length (List.cons.inj heq).1
        rw [List.length_append, List.length_cons] at hlength
        omega
      · rw [List.splitOn_append_cons_self_of_not_mem hline, List.cons_append, List.cons.injEq]
        simp [hline]

/-! ## Names -/

open RuleTable (Step)

/-- A filter of the rule that some steps come to is one of a step. -/
lemma RuleTable.exists_of_mem_ruleOf {catalog : Catalog} {past : List Step} {filters : List Filter}
    (h : ruleOf catalog past = .chain filters) {f : Filter} (hf : f ∈ filters) :
    ∃ s ∈ past, f ∈ s.filters catalog := by
  have hfilters : filters = filtersOf catalog past := by
    rw [ruleOf] at h
    split at h
    · cases h
    · exact (Rule.chain.inj h).symm
  rw [hfilters] at hf
  obtain ⟨s, hs, hf⟩ := List.mem_flatMap.mp hf
  refine ⟨s, ?_, hf⟩
  rcases List.mem_append.mp hs with hs | hs
  · exact (List.rdropWhile_prefix _ _).subset (List.mem_of_getLast? (Option.mem_toList.mp hs))
  · exact (List.rtakeWhile_suffix _ _).subset hs

/-- The filters in the rules of a table that is told by a history are those of its steps. -/
lemma RuleTable.ToldBy.exists_of_mem {t : RuleTable} {past : List Step} (h : t.ToldBy past)
    {e : RuleEntry} (he : e ∈ t.entries) {filters : List Filter} (hrule : e.rule = .chain filters)
    {f : Filter} (hf : f ∈ filters) : ∃ s ∈ past, f ∈ s.filters t.catalog := by
  rw [h.entries] at he
  obtain ⟨spec, -, rfl⟩ := List.mem_map.mp he
  obtain ⟨s, hs, hf⟩ := exists_of_mem_ruleOf hrule hf
  exact ⟨s, List.mem_of_mem_filter hs, hf⟩

namespace Config

variable {c : Config} {catalog : Catalog} {r : Resolver}

/-- What was checked and built is told by its bindings, and no chain in it is empty. -/
lemma toldBy_of_build (hcheck : c.check = .ok ()) (hbuild : c.build catalog = .ok r) :
    r.rules.ToldBy (steps (start c catalog) c.rules) ∧ r.rules.catalog = catalog
      ∧ ∀ e ∈ r.rules.entries, e.rule ≠ .chain [] := by
  have haccepted := accepted_of_check hcheck
  rw [build_eq haccepted] at hbuild
  split at hbuild
  · cases hbuild
  · next hnames =>
    obtain rfl := Except.ok.inj hbuild
    have hfaults := Resolver.fault?_of_mem_steps
      ((findSome?_bindingFault? (r := start c catalog) haccepted).trans hnames)
    have htold := RuleTable.toldBy_takeAll (RuleTable.toldBy_clear (start c catalog).rules) hfaults
    exact ⟨htold, RuleTable.catalog_takeAll .., (describes_of_steps haccepted hnames).filled⟩

/-- An element of a chain of a binding is a name or a substitution. -/
lemma named_or_live {r : Resolver} {bs : List BindingConfig} {s : Step} (hs : s ∈ steps r bs)
    {ref : FilterRef} (href : ref ∈ s.chain) :
    (∃ name, ref = .named name) ∨ ∃ s : Substitution, ref = .live s.toFilter := by
  obtain ⟨binding, hbinding, hstep⟩ := List.mem_filterMap.mp hs
  obtain ⟨b, -, rfl⟩ := List.mem_map.mp hbinding
  have hmem : ref ∈ b.value.binding.chain := by
    rw [Resolver.step?] at hstep
    split_ifs at hstep
    · obtain rfl := Option.some.inj hstep
      exact href
    · split at hstep
      · obtain rfl := Option.some.inj hstep
        exact absurd href List.not_mem_nil
      · cases hstep
  cases hvalue : b.value with
  | text name =>
      rw [hvalue] at hmem
      exact .inl ⟨name, List.mem_singleton.mp hmem⟩
  | filters chain =>
      rw [hvalue] at hmem
      obtain ⟨f, -, rfl⟩ := List.mem_map.mp hmem
      cases f with
      | named name => exact .inl ⟨name, rfl⟩
      | substitution options => exact .inr ⟨_, rfl⟩

/-- **The filters of what was checked and built** are substitutions and filters of the catalogue. -/
theorem filter_of_build (hcheck : c.check = .ok ()) (hbuild : c.build catalog = .ok r)
    {e : RuleEntry} (he : e ∈ r.rules.entries) {filters : List Filter}
    (hrule : e.rule = .chain filters) {f : Filter} (hf : f ∈ filters) :
    (∃ s : Substitution, f = s.toFilter) ∨ ∃ pair ∈ catalog.makers, f = pair.2.settled := by
  obtain ⟨htold, rfl, -⟩ := toldBy_of_build hcheck hbuild
  obtain ⟨s, hs, hf⟩ := htold.exists_of_mem he hrule hf
  obtain ⟨ref, href, hfilter⟩ := List.mem_filterMap.mp hf
  rcases named_or_live hs href with ⟨name, rfl⟩ | ⟨s, rfl⟩
  · obtain ⟨maker, hmaker, rfl⟩ := Option.map_eq_some_iff.mp hfilter
    exact .inr ⟨(name, maker), Assoc.mem_of_lookup hmaker, rfl⟩
  · exact .inl ⟨s, (Option.some.inj hfilter).symm⟩

/-- The names of the filters of this library have no signs of an arrow in them. -/
lemma named_of_build (hcheck : c.check = .ok ()) (hbuild : c.build .builtin = .ok r) :
    ∀ row ∈ r.rows, row.Named := by
  intro row hrow names hdetail
  obtain ⟨e, he, rfl⟩ := List.mem_map.mp hrow
  cases hrule : e.rule with
  | static text =>
      simp only [RuleEntry.row, hrule] at hdetail
      cases hdetail
  | chain filters =>
      simp only [RuleEntry.row, hrule] at hdetail
      obtain rfl := Detail.chain.inj hdetail
      obtain ⟨-, -, hfilled⟩ := toldBy_of_build hcheck hbuild
      constructor
      · intro hnil
        exact hfilled e he (hrule.trans (congrArg Rule.chain (List.map_eq_nil_iff.mp hnil)))
      · intro name hname
        obtain ⟨f, hf, rfl⟩ := List.mem_map.mp hname
        rcases filter_of_build hcheck hbuild he hrule hf with ⟨s, rfl⟩ | ⟨pair, hpair, rfl⟩
        · exact (by decide : Clear Substitution.filterName)
        · exact (by decide +kernel : ∀ pair ∈ Catalog.builtin.makers,
            Clear pair.2.settled.name) pair hpair

end Config

/-! ## Listings -/

/-- **A listing tells all there is to see of the rules**, if all rows are legible.  Then it can be
read back, and so two listings are equal just if the rows are, in the same order.  There is one line
for each rule just if no spec has a line break in it. -/
theorem rulesListing_eq_iff {c c' : Config} {r r' : Resolver} (hcheck : c.check = .ok ())
    (hbuild : c.build .builtin = .ok r) (hlegible : ∀ row ∈ r.rows, row.Legible)
    (hcheck' : c'.check = .ok ()) (hbuild' : c'.build .builtin = .ok r')
    (hlegible' : ∀ row ∈ r'.rows, row.Legible) :
    (rulesListing r = rulesListing r' ↔ r.rows = r'.rows)
      ∧ readListing (rulesListing r) = some r.rows
      ∧ ((rulesListing r).toList.splitOn '\n' = r.rows.map Row.line ++ [[]]
        ↔ ∀ row ∈ r.rows, '\n' ∉ row.spec.toList) := by
  have hnamed := Config.named_of_build hcheck hbuild
  have hread := readListing_of_legible hlegible hnamed
  have hread' := readListing_of_legible hlegible' (Config.named_of_build hcheck' hbuild')
  refine ⟨⟨fun heq => ?_, fun heq => ?_⟩, hread, ?_⟩
  · rw [heq, hread'] at hread
    exact (Option.some.inj hread).symm
  · rw [← String.toList_inj, toList_rulesListing, toList_rulesListing, heq]
  · have hlines : (rulesListing r).toList = (r.rows.map Row.line).flatMap (· ++ ['\n']) := by
      rw [toList_rulesListing, List.flatMap_map]
    rw [hlines, splitOn_lines_iff, List.forall_mem_map]
    exact forall₂_congr fun row hrow =>
      not_congr (mem_line_iff (hlegible row hrow) (hnamed row hrow))

/-- A configuration with a tab in a fixed text and a line break in a spec. -/
def tabbed : Config where
  target := "%name"
  identifier := "%"
  rules :=
    [⟨"%na\nme", .filters [.named "camel_case_to_dash", .substitution ⟨["a"], ["b"]⟩]⟩,
     ⟨":note", .text "a\tb -> c"⟩]

/-- The same rules under other keys. -/
def retabbed : Config where
  target := "#"
  identifier := "#"
  rules :=
    [⟨"#na\nme", .text "camel_case_to_dash"⟩, ⟨"note", .text "a\tb -> c"⟩,
     ⟨"#:na\nme", .text "regex_replace"⟩]

lemma exists_rows_of_build (c : Config) (rows : List Row)
    (h : (c.build .builtin).map Resolver.rows = .ok rows) :
    ∃ r, c.build .builtin = .ok r ∧ r.rows = rows := by
  cases hbuild : c.build .builtin with
  | error fault => rw [hbuild] at h; cases h
  | ok r =>
      rw [hbuild] at h
      exact ⟨r, rfl, Except.ok.inj h⟩

/-- The rows of both. -/
def tabbedRows : List Row :=
  [⟨"na\nme", .chain ["camel_case_to_dash", "regex_replace"]⟩, ⟨"note", .static "a\tb -> c"⟩]

theorem rulesListing_tabbed :
    ∃ r r', tabbed.check = .ok () ∧ tabbed.build .builtin = .ok r ∧ retabbed.check = .ok ()
      ∧ retabbed.build .builtin = .ok r' ∧ rulesListing r = rulesListing r'
      ∧ readListing (rulesListing r) = some tabbedRows := by
  have hcheck : tabbed.check = .ok () := by decide +kernel
  have hcheck' : retabbed.check = .ok () := by decide +kernel
  obtain ⟨r, hbuild, hrows⟩ := exists_rows_of_build tabbed tabbedRows (by decide +kernel)
  obtain ⟨r', hbuild', hrows'⟩ := exists_rows_of_build retabbed tabbedRows (by decide +kernel)
  have hlegible : ∀ row ∈ tabbedRows, row.Legible := by decide
  obtain ⟨hsame, hread, -⟩ := rulesListing_eq_iff hcheck hbuild (hrows ▸ hlegible) hcheck' hbuild'
    (hrows' ▸ hlegible)
  exact ⟨r, r', hcheck, hbuild, hcheck', hbuild', hsame.mpr (hrows.trans hrows'.symm),
    hread.trans (congrArg some hrows)⟩

/-- A fixed text that looks like the end of one rule and all of another. -/
def lookalike : Config where
  target := ":a"
  rules := [⟨"a", .text "x\nb\tstatic\ty"⟩]

/-- Two rules. -/
def twoRules : Config where
  target := ":a"
  rules := [⟨"a", .text "x"⟩, ⟨"b", .text "y"⟩]

/-- **Some listings are listings of different rules.** -/
theorem not_rulesListing_inj :
    ¬ ∀ (c c' : Config) (r r' : Resolver), c.check = .ok () → c.build .builtin = .ok r →
      c'.check = .ok () → c'.build .builtin = .ok r' → rulesListing r = rulesListing r' →
      r.rows = r'.rows := by
  intro h
  obtain ⟨r, hbuild, hrows⟩ :=
    exists_rows_of_build lookalike [⟨"a", .static "x\nb\tstatic\ty"⟩] (by decide +kernel)
  obtain ⟨r', hbuild', hrows'⟩ :=
    exists_rows_of_build twoRules [⟨"a", .static "x"⟩, ⟨"b", .static "y"⟩] (by decide +kernel)
  have hsame : rulesListing r = rulesListing r' := by
    rw [← String.toList_inj, toList_rulesListing, toList_rulesListing, hrows, hrows']
    decide
  have heq := h lookalike twoRules r r' (by decide +kernel) hbuild (by decide +kernel) hbuild' hsame
  rw [hrows, hrows'] at heq
  exact absurd heq (by decide)

end Placeholders
