import Placeholders.RuleTable
import Placeholders.Source

/-!
# Resolvers

A resolver turns a target, a text with placeholders, into a text without them.  A placeholder is the
identifier followed by a spec.

* `Resolver` — target, identifier, policy and rules.
* `isDynamicKey`, `stripMarker` — how a key is read under an identifier.
* `Resolver.Edit`, `Resolver.perform` — edits of the rules and of the identifier.
* `Resolver.queue` — the replacements that a source calls for, in the order of the rules.
* `Resolver.substitute` — making them, one after the other.
* `Resolver.resolve` — the resolved target.
-/

namespace Placeholders

/-- A target and what is needed to resolve it.  Under the strict policy a placeholder that is left
over is a fault; otherwise it stays in the text. -/
structure Resolver where
  target : String
  identifier : String := ":"
  strict : Bool := true
  rules : RuleTable

namespace Resolver

/-! ## Keys -/

/-- The character that marks a key as dynamic: the first of the identifier. -/
def marker? (r : Resolver) : Option Char := r.identifier.toList.head?

/-- Does the key begin with the marker? -/
def isDynamicKey (r : Resolver) (key : String) : Bool :=
  match r.marker?, key.toList with
  | some m, c :: _ => c == m
  | _, _ => false

/-- The key without one marker at its front. -/
def stripMarker (r : Resolver) (key : String) : String :=
  match key.toList with
  | _ :: rest => if r.isDynamicKey key then String.ofList rest else key
  | [] => key

/-! ## Edits -/

/-- What a key is bound to: a text, or a chain of filters. -/
inductive Binding where
  | text (value : String)
  | filters (chain : List FilterRef)

/-- The chain that a binding stands for under a dynamic key.  A text names a single filter. -/
def Binding.chain : Binding → List FilterRef
  | .text name => [.named name]
  | .filters chain => chain

/-- Work on the rules. -/
def onRules (work : Work RuleTable Unit) : Work Resolver Unit := fun r =>
  match work.run r.rules with
  | .ok _ rules => .ok () { r with rules := rules }
  | .error fault rules => .error fault { r with rules := rules }

/-- Takes in one binding.  A dynamic key extends the chain of its spec; any other key binds a fixed
text. -/
def ingest (key : String) (value : Binding) : Work Resolver Unit := do
  let r ← get
  if r.isDynamicKey key then
    onRules (RuleTable.addRule (r.stripMarker key) value.chain)
  else
    match value with
    | .text text => onRules (modify fun t => t.setStatic key text)
    | .filters _ => throw (.setup (.staticChain key r.identifier))

/-- Takes in one binding.  A fault brings back the rules that were there before the first one. -/
def ingestOrRestore (previous : RuleTable) (key : String) (value : Binding) : Work Resolver Unit :=
  tryCatch (ingest key value) fun fault => do
    modify fun r => { r with rules := previous }
    throw fault

/-- Takes in several bindings, all of them or, on a fault, none.  They go into a table that takes the
place of the rules before the first one. -/
def ingestAll (staged : RuleTable) (bindings : List (String × Binding)) : Work Resolver Unit := do
  let previous := (← get).rules
  modify fun r => { r with rules := staged }
  bindings.forM fun (key, value) => ingestOrRestore previous key value

/-- Takes in several bindings beside the rules that there are. -/
def addRules (bindings : List (String × Binding)) : Work Resolver Unit := do
  ingestAll (← get).rules bindings

/-- Takes in several bindings in place of the rules that there are. -/
def setRules (bindings : List (String × Binding)) : Work Resolver Unit := do
  ingestAll (← get).rules.clear bindings

/-- Binds the spec of a key to a chain. -/
def setRule (key : String) (chain : List FilterRef) : Work Resolver Unit := do
  onRules (RuleTable.setRule ((← get).stripMarker key) chain)

/-- Extends the chain of the spec of a key. -/
def addRule (key : String) (chain : List FilterRef) : Work Resolver Unit := do
  onRules (RuleTable.addRule ((← get).stripMarker key) chain)

/-- Binds the spec of a key to a fixed text. -/
def setStatic (r : Resolver) (key text : String) : Resolver :=
  { r with rules := r.rules.setStatic (r.stripMarker key) text }

/-- Replaces the identifier.  It may not be empty. -/
def setIdentifier (identifier : String) : Work Resolver Unit := do
  if identifier.isEmpty then throw (.setup .emptyIdentifier)
  modify fun r => { r with identifier := identifier }

/-- An edit as a value. -/
inductive Edit where
  | setIdentifier (identifier : String)
  | setTarget (target : String)
  | setStrict (strict : Bool)
  | setRules (bindings : List (String × Binding))
  | addRules (bindings : List (String × Binding))
  | setRule (key : String) (chain : List FilterRef)
  | addRule (key : String) (chain : List FilterRef)
  | setStatic (key text : String)
  | clear
  /-- an edit of the table itself, which knows of no identifier -/
  | table (edit : RuleTable.Edit)

/-- The work that an edit is. -/
def perform : Edit → Work Resolver Unit
  | .setIdentifier identifier => setIdentifier identifier
  | .setTarget target => modify fun r => { r with target := target }
  | .setStrict strict => modify fun r => { r with strict := strict }
  | .setRules bindings => setRules bindings
  | .addRules bindings => addRules bindings
  | .setRule key chain => setRule key chain
  | .addRule key chain => addRule key chain
  | .setStatic key text => modify fun r => r.setStatic key text
  | .clear => modify fun r => { r with rules := r.rules.clear }
  | .table edit => onRules (RuleTable.perform edit)

/-! ## Looking -/

/-- The rule of the spec of a key. -/
def rule? (r : Resolver) (key : String) : Option Rule := r.rules.get? key

/-- The filter at an index of the chain of a key's spec. -/
def filterAt? (r : Resolver) (key : String) (index : Nat) : Option Filter :=
  (r.rule? key).bind fun rule => rule.filters?.bind fun filters => filters[index]?

/-- The keys of an object whose spec has no rule. -/
def unboundKeys (r : Resolver) : Json → List String
  | .object fields => (fields.map (·.1)).filter fun key => (r.rule? key).isNone
  | _ => []

/-! ## Replacements -/

/-- The text that the output of a chain stands for. -/
def outputText (spec : String) (output : Json) : Except Fault String :=
  match output.scalarText? with
  | some text => .ok text
  | none => .error (.input (.chainOutput spec output.kind))

/-- The text that replaces the placeholder of a spec, if there is one: the value of the source,
after the chain if there is a chain; without such a value the fixed text. -/
def replacement (source : Source) (entry : RuleEntry) : Except Fault (Option String) :=
  match source.value? entry.spec, entry.rule with
  | some value, .static _ => .ok (some value)
  | some value, .chain filters => do
    let output ← Filter.runAll filters (.string value)
    let text ← outputText entry.spec output
    pure (some text)
  | none, .static text => .ok (some text)
  | none, .chain _ => .ok none

/-- Specs with their replacements, in the order of the rules. -/
def queue (source : Source) : List RuleEntry → Except Fault (List (String × String))
  | [] => .ok []
  | entry :: rest => do
    let text ← replacement source entry
    let queued ← queue source rest
    match text with
    | some text => pure ((entry.spec, text) :: queued)
    | none => pure queued

/-- The pattern of a placeholder: the identifier as it is, and the spec, which may be a pattern. -/
def placeholder (identifier spec : String) : String :=
  String.ofList (Pattern.quote identifier.toList) ++ spec

/-- Replaces the matches of a pattern by a text, verbatim. -/
def insertText (pattern : Pattern) (replacement text : String) : String :=
  Substitution.replaceByTemplate pattern
    (String.ofList (Template.escapeLiteral replacement.toList)) text

/-- Replaces placeholder after placeholder.  A spec that makes no pattern is left alone or, under
the strict policy, ends the work. -/
def substitute (identifier : String) (strict : Bool) :
    String → List (String × String) → Except Fault String
  | text, [] => .ok text
  | text, (spec, replacement) :: rest =>
    match Pattern.compile (placeholder identifier spec) with
    | .ok pattern => substitute identifier strict (insertText pattern replacement text) rest
    | .error _ =>
      if strict then .error (.unresolved identifier spec text)
      else substitute identifier strict text rest

/-! ## Leftover placeholders -/

/-- The pattern of a placeholder that was left over: the identifier and a word. -/
def leftover (identifier : String) : String :=
  String.ofList (Pattern.quote identifier.toList) ++ "([A-Za-z][A-Za-z0-9_]*)"

/-- The word of the first placeholder that was left over. -/
def findLeftover (identifier text : String) : Except Fault (Option String) :=
  match Pattern.compile (leftover identifier) with
  | .ok pattern =>
    .ok ((Pattern.firstGroups? pattern.expr none text.toList).map
      fun groups => String.ofList ((groups 1).getD []))
  | .error defect => .error (.badPattern (leftover identifier) defect)

/-! ## Resolving -/

/-- Resolves the target for a source. -/
def resolve (r : Resolver) (source : Json) : Except Fault String :=
  if r.identifier.isEmpty then .error (.setup .emptyIdentifier)
  else do
    let source ← Source.ofJson source
    let queued ← queue source r.rules.entries
    let text ← substitute r.identifier r.strict r.target queued
    if r.strict then
      match ← findLeftover r.identifier text with
      | some spec => .error (.unresolved r.identifier spec text)
      | none => pure text
    else pure text

/-- Resolves the target for pairs of key and value. -/
def resolvePairs (r : Resolver) (pairs : List (String × String)) : Except Fault String :=
  r.resolve (Source.ofPairs pairs)

end Resolver

end Placeholders
