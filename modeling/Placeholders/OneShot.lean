import Placeholders.Failure

/-!
# Resolving once

* `buildFor` — the resolver of a configuration with the filters of this library.
* `resolveFor` — resolves the target of a resolver for a source.
* `resolveOnce` — builds the resolver and resolves the target for some pairs, in one go.
-/

namespace Placeholders

/-- The resolver of a configuration. -/
def buildFor (c : Config) : Except Failure Resolver :=
  inContext "Failed to build inflector from config" (orFail (c.build .builtin))

/-- Resolves the target of a resolver for a source. -/
def resolveFor (r : Resolver) (source : Json) : Except Failure String :=
  inContext s!"Failed to inflect target '{r.target}'" (orFail (r.resolve source))

/-- Resolves the target of a configuration for pairs of key and value. -/
def resolveOnce (c : Config) (pairs : List (String × String)) : Except Failure String := do
  let r ← buildFor c
  inContext s!"Failed to inflect target '{c.target}'" (orFail (r.resolvePairs pairs))

end Placeholders
