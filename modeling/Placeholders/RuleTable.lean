import Placeholders.Rule
import Placeholders.Work

/-!
# Tables of rules

A table binds specs to rules and keeps them in the order in which the specs were first bound; that
order is the order of substitution.  An index from spec to position goes along with it.

* `RuleTable` — a table; `get?`, `position?`, `specAt?` look into it.
* `RuleTable.write` — the one way in which an entry comes to be.
* `setRule`, `addRule`, `setStatic`, `clear`, `setRules`, `addRules` — the edits.
* `RuleTable.Edit` — an edit as a value; `RuleTable.perform` — the work that it is.
-/

namespace Placeholders

/-- A spec and its rule. -/
structure RuleEntry where
  spec : String
  rule : Rule

/-- Rules by spec, in the order in which the specs were first bound. -/
structure RuleTable where
  catalog : Catalog
  entries : List RuleEntry := []
  /-- the position of each spec among the entries, ascending by spec -/
  positions : List (String × Nat) := []

namespace RuleTable

/-! ## Looking -/

/-- The position of the spec of a key. -/
def position? (t : RuleTable) (key : String) : Option Nat :=
  t.positions.lookup (normalizeSpec key)

/-- The rule of the spec of a key. -/
def get? (t : RuleTable) (key : String) : Option Rule :=
  (t.position? key).bind fun i => (t.entries[i]?).map (·.rule)

/-- The spec at a position. -/
def specAt? (t : RuleTable) (i : Nat) : Option String :=
  (t.entries[i]?).map (·.spec)

/-! ## Writing -/

/-- Changes the rule at a position. -/
def modifyAt (t : RuleTable) (i : Nat) (update : Rule → Rule) : RuleTable :=
  { t with entries := t.entries.modify i fun e => { e with rule := update e.rule } }

/-- Adds an entry for a new spec at the end. -/
def push (t : RuleTable) (spec : String) (rule : Rule) : RuleTable :=
  { t with
    entries := t.entries ++ [⟨spec, rule⟩]
    positions := Assoc.insert spec t.entries.length t.positions }

/-- Writes the rule of a spec, given the one it has.  A new spec goes to the end. -/
def write (t : RuleTable) (spec : String) (update : Option Rule → Rule) : RuleTable :=
  match t.positions.lookup spec with
  | some i => t.modifyAt i fun rule => update (some rule)
  | none => t.push spec (update none)

/-- Leaves an empty chain to a spec that has a rule. -/
def blank (t : RuleTable) (spec : String) : RuleTable :=
  match t.positions.lookup spec with
  | some i => t.modifyAt i fun _ => .chain []
  | none => t

/-- The filters of a chain for a key.  A chain has at least one filter. -/
def resolveChain (t : RuleTable) (key : String) (chain : List FilterRef) :
    Except Fault (List Filter) :=
  if chain.isEmpty then .error (.setup (.emptyChain (normalizeSpec key)))
  else chain.mapM (FilterRef.resolve t.catalog)

/-- A rule extended by more filters; a static rule gives way to them. -/
def extended (filters : List Filter) : Option Rule → Rule
  | some (.chain before) => .chain (before ++ filters)
  | _ => .chain filters

/-! ## Edits -/

/-- Binds the spec of a key to a chain.  What it was bound to is emptied first and then extended. -/
def setRule (key : String) (chain : List FilterRef) : Work RuleTable Unit := do
  let filters ← MonadExcept.ofExcept ((← get).resolveChain key chain)
  let spec := normalizeSpec key
  modify fun t => t.blank spec
  modify fun t => t.write spec (extended filters)

/-- Extends the chain of the spec of a key. -/
def addRule (key : String) (chain : List FilterRef) : Work RuleTable Unit := do
  let filters ← MonadExcept.ofExcept ((← get).resolveChain key chain)
  modify fun t => t.write (normalizeSpec key) (extended filters)

/-- Binds the spec of a key to a fixed text. -/
def setStatic (t : RuleTable) (key text : String) : RuleTable :=
  t.write (normalizeSpec key) fun _ => .static text

/-- A table without rules. -/
def clear (t : RuleTable) : RuleTable := { catalog := t.catalog }

/-- Extends the chains of several keys in turn. -/
def extend (bindings : List (String × List FilterRef)) : Work RuleTable Unit :=
  bindings.forM fun (key, chain) => addRule key chain

/-- Extends the chains of several keys, all of them or, on a fault, none: the work is done on a copy,
which takes the place of the table in the end. -/
def addRules (bindings : List (String × List FilterRef)) : Work RuleTable Unit := do
  let staged ← Work.onCopy (← get) (extend bindings)
  set staged

/-- The same on a table without rules. -/
def setRules (bindings : List (String × List FilterRef)) : Work RuleTable Unit := do
  let staged ← Work.onCopy (← get).clear (extend bindings)
  set staged

/-- An edit as a value. -/
inductive Edit where
  | setRules (bindings : List (String × List FilterRef))
  | addRules (bindings : List (String × List FilterRef))
  | setRule (key : String) (chain : List FilterRef)
  | addRule (key : String) (chain : List FilterRef)
  | setStatic (key text : String)
  | clear

/-- The work that an edit is. -/
def perform : Edit → Work RuleTable Unit
  | .setRules bindings => setRules bindings
  | .addRules bindings => addRules bindings
  | .setRule key chain => setRule key chain
  | .addRule key chain => addRule key chain
  | .setStatic key text => modify fun t => t.setStatic key text
  | .clear => modify clear

end RuleTable

end Placeholders
