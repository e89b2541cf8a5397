import Placeholders.Resolver

/-!
# Configurations

A configuration describes a resolver: its target, identifier, policy and the bindings of its rules
in order.

* `Config` — a configuration, and the types of its parts.
* `Config.problems`, `Config.check` — everything that is wrong with one.
* `Config.build` — the resolver that it describes.
-/

namespace Placeholders

/-- The description of a substitution. -/
structure SubstitutionConfig where
  patterns : List String
  replacements : List String := []
  deriving DecidableEq

/-- A filter of a chain: by name, or a substitution in place. -/
inductive FilterConfig where
  | named (name : String)
  | substitution (options : SubstitutionConfig)
  deriving DecidableEq

/-- What a key is bound to: a text, which under a dynamic key names a filter, or a chain. -/
inductive ValueConfig where
  | text (value : String)
  | filters (chain : List FilterConfig)
  deriving DecidableEq

/-- A binding. -/
structure BindingConfig where
  key : String
  value : ValueConfig
  deriving DecidableEq

/-- The description of a resolver. -/
structure Config where
  target : String
  identifier : String := ":"
  strict : Bool := true
  rules : List BindingConfig := []
  deriving DecidableEq

namespace Config

/-! ## Checking -/

/-- Something that is wrong with a configuration. -/
inductive Problem where
  | emptyTarget
  | emptyIdentifier
  /-- nothing is left of a key without its markers -/
  | emptyKey (key : String)
  /-- two keys bind a fixed text to the same spec -/
  | repeatedStatic (spec : String)
  /-- a key without the marker has a chain -/
  | staticChain (key identifier : String)
  | emptyChain (key : String)
  | noPattern (key : String)
  | badPattern (key : String) (fault : Fault)
  deriving DecidableEq

/-- The text of a problem, with a given wording for the defects of patterns. -/
def Problem.textWith (wording : Pattern.Defect → String) : Problem → String
  | .emptyTarget => "The \x60target\x60 field is empty."
  | .emptyIdentifier => "The \x60identifier\x60 field is empty."
  | .emptyKey key => s!"Rule key '{key}' is empty after normalization."
  | .repeatedStatic spec => s!"Static rule '{spec}' is defined more than once."
  | .staticChain key identifier =>
    s!"Rule '{key}' has a filter list but is not dynamic; prefix it with '{identifier}'."
  | .emptyChain key => s!"Rule '{key}' has an empty filter list."
  | .noPattern key => s!"Rule '{key}': regex_replace has no patterns."
  | .badPattern key fault => s!"Rule '{key}': {fault.messageWith wording}"

/-- The problems of one substitution under a key. -/
def substitutionProblems (key : String) (options : SubstitutionConfig) : List Problem :=
  (if options.patterns.isEmpty then [.noPattern key] else []) ++
    options.patterns.filterMap fun pattern =>
      match compilePattern pattern with
      | .ok _ => none
      | .error fault => some (.badPattern key fault)

/-- The problems of a filter under a key.  Whether a name is known is not asked here. -/
def filterProblems (key : String) : FilterConfig → List Problem
  | .named _ => []
  | .substitution options => substitutionProblems key options

/-- Does a key begin with the marker of an identifier? -/
def isDynamicKey (identifier key : String) : Bool :=
  match identifier.toList, key.toList with
  | m :: _, c :: _ => c == m
  | _, _ => false

/-- The spec of a key under an identifier: without one marker of the identifier, and then without
the markers that every spec goes without. -/
def specOf (identifier key : String) : String :=
  normalizeSpec (if isDynamicKey identifier key then String.ofList key.toList.tail else key)

/-- The problems of a binding, given the specs that have a fixed text already. -/
def bindingProblems (identifier : String) (taken : List String) (b : BindingConfig) :
    List Problem :=
  let spec := specOf identifier b.key
  if spec.isEmpty then [.emptyKey b.key]
  else
    match b.value, isDynamicKey identifier b.key with
    | .text _, false => if taken.contains spec then [.repeatedStatic spec] else []
    | .text _, true => []
    | .filters _, false => [.staticChain b.key identifier]
    | .filters chain, true =>
      (if chain.isEmpty then [.emptyChain b.key] else []) ++ chain.flatMap (filterProblems b.key)

/-- The specs with a fixed text after a binding. -/
def takenAfter (identifier : String) (taken : List String) (b : BindingConfig) : List String :=
  let spec := specOf identifier b.key
  match b.value, isDynamicKey identifier b.key with
  | .text _, false => if spec.isEmpty then taken else spec :: taken
  | _, _ => taken

/-- The problems of bindings in order. -/
def rulesProblems (identifier : String) : List String → List BindingConfig → List Problem
  | _, [] => []
  | taken, b :: rest =>
    bindingProblems identifier taken b ++
      rulesProblems identifier (takenAfter identifier taken b) rest

/-- All problems of a configuration: target, identifier, bindings in order. -/
def problems (c : Config) : List Problem :=
  (if c.target.isEmpty then [.emptyTarget] else []) ++
    (if c.identifier.isEmpty then [.emptyIdentifier] else []) ++
    rulesProblems c.identifier [] c.rules

/-- Accepts a configuration without problems. -/
def check (c : Config) : Except (List Problem) Unit :=
  if c.problems.isEmpty then .ok () else .error c.problems

/-- The text of a list of problems: a header and a line for each. -/
def problemsText (wording : Pattern.Defect → String) (problems : List Problem) : String :=
  String.intercalate "\n" ("Config validation failed:" :: problems.map (·.textWith wording))

/-! ## Building -/

/-- The element of a chain that a description stands for. -/
def filterRef : FilterConfig → Except Fault FilterRef
  | .named name => .ok (.named name)
  | .substitution options => do
    let s ← Substitution.ofLists options.patterns options.replacements
    pure (.live s.toFilter)

/-- What the value of a binding stands for. -/
def bindingValue : ValueConfig → Except Fault Resolver.Binding
  | .text value => .ok (.text value)
  | .filters chain => do
    let refs ← chain.mapM filterRef
    pure (.filters refs)

/-- The bindings of a configuration, made ready. -/
def bindings (c : Config) : Except Fault (List (String × Resolver.Binding)) :=
  c.rules.mapM fun b => do
    let value ← bindingValue b.value
    pure (b.key, value)

/-- The resolver that a configuration describes, with filters from a catalogue. -/
def build (c : Config) (catalog : Catalog) : Except Fault Resolver := do
  let bindings ← c.bindings
  let r : Resolver :=
    { target := c.target, identifier := c.identifier, strict := c.strict
      rules := { catalog := catalog } }
  Work.result (Resolver.setRules bindings) r

end Config

end Placeholders
