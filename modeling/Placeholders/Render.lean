import Placeholders.Config.Yaml
import Placeholders.Host
import Placeholders.Json.Reader
import Placeholders.Listing
import Placeholders.Message
import Placeholders.OneShot

/-!
# Rendering

Rendering resolves the target of a configuration file for values that the user gives, and writes the
result.

* `loadConfig`, `collectSource` — what rendering works on.
* `ObjectSource` — where values other than pairs are read from.
* `RenderOptions` — what the user asks for.
* `render` — does it; `listRules` — lists the rules of a configuration file instead.
-/

namespace Placeholders

variable {m : Type → Type} [Monad m]

/-! ## Steps -/

/-- A step that may fail for lack of a file. -/
def fileStep {α : Type} (context : String) (action : m (Except FileFault α)) :
    ExceptT Failure m α :=
  ExceptT.mk do
    match ← action with
    | .ok a => return .ok a
    | .error fault => return inContext context (failFor (.file fault))

/-- A step without effects. -/
def pureStep {α : Type} (result : Except Failure α) : ExceptT Failure m α :=
  ExceptT.mk (pure result)

/-- A message to the user. -/
def Host.report (host : Host m) (severity : Severity) (text : String) : m Unit :=
  host.printError (Message.render host.coloured ⟨severity, text⟩)

/-! ## Reading -/

/-- Loads a configuration. -/
def loadConfig (host : Host m) (name : String) : ExceptT Failure m Config := do
  let text ← fileStep s!"Failed to read config file {name}" (host.readFile name)
  pureStep (inContext s!"Failed to load config file {name}" (Config.ofYaml text))

/-- The fields of the object that a text holds. -/
def objectOf (text : String) : Except Failure (List (String × Json)) :=
  match Json.read? text with
  | none => inContext "Failed to parse source JSON" (failFor .malformed)
  | some (.object fields) => .ok fields
  | some _ => failFor .noObject

/-- Where an object of values is read from. -/
inductive ObjectSource where
  | input
  | file (name : String)
  deriving DecidableEq

/-- The source that a user means by a name.  A hyphen means the standard input, also with slashes
and dots behind it. -/
def ObjectSource.ofName (name : String) : ObjectSource :=
  match FilePath.parts name with
  | "-" :: rest => if rest.all fun part => part == "" || part == "." then .input else .file name
  | _ => .file name

/-- Reads an object. -/
def readObject (host : Host m) (source : ObjectSource) :
    ExceptT Failure m (List (String × Json)) := do
  let text ←
    match source with
    | .input => fileStep "Failed to read source JSON from stdin" host.readInput
    | .file name => fileStep s!"Failed to read source JSON file {name}" (host.readFile name)
  pureStep (objectOf text)

/-- Fields with pairs set on top of them. -/
def withPairs (fields : List (String × Json)) (pairs : List (String × String)) : Json :=
  Json.ofFields (fields ++ pairs.map fun (key, value) => (key, .string value))

/-- The source that an object, if there is one, and pairs make.  Pairs override the object. -/
def collectSource (host : Host m) (source? : Option ObjectSource)
    (pairs : List (String × String)) : ExceptT Failure m Json := do
  let fields ←
    match source? with
    | some source => readObject host source
    | none => pure []
  return withPairs fields pairs

/-! ## Rendering -/

/-- What the user asks for. -/
structure RenderOptions where
  config : String
  /-- in place of the target of the configuration -/
  target? : Option String := none
  pairs : List (String × String) := []
  /-- where further values are -/
  source? : Option ObjectSource := none
  /-- leave placeholders without a value as they are -/
  lenient : Bool := false
  /-- the file for the result, which otherwise is printed -/
  output? : Option String := none
  quiet : Bool := false

/-- A configuration with the target and the policy that the user asks for. -/
def RenderOptions.adjust (o : RenderOptions) (c : Config) : Config :=
  { c with target := o.target?.getD c.target, strict := c.strict && !o.lenient }

/-- Tells the user of the values that have no rule. -/
def warnUnbound (host : Host m) (keys : List String) : m Unit :=
  keys.forM fun key =>
    host.report .warning s!"Source value '{key}' does not match any rule and is ignored."

/-- Writes a result and a line break. -/
def writeResult (host : Host m) (o : RenderOptions) (result : String) : ExceptT Failure m Unit :=
  match o.output? with
  | none => ExceptT.lift (host.print (result ++ "\n"))
  | some name => do
    unless o.quiet do
      ExceptT.lift (host.report .info s!"Writing inflected target to file: {name}")
    fileStep s!"Failed to create output file: {name}" (host.writeFile name (result ++ "\n"))

/-- Resolves the target of a configuration file and writes the result. -/
def render (host : Host m) (o : RenderOptions) : ExceptT Failure m Unit := do
  let config ← loadConfig host o.config
  let resolver ← pureStep (buildFor (o.adjust config))
  let source ← collectSource host o.source? o.pairs
  unless o.quiet do
    ExceptT.lift (warnUnbound host (resolver.unboundKeys source))
  let result ← pureStep (resolveFor resolver source)
  writeResult host o result

/-- Prints the rules of a configuration file. -/
def listRules (host : Host m) (name : String) : ExceptT Failure m Unit := do
  let config ← loadConfig host name
  let resolver ← pureStep (buildFor config)
  ExceptT.lift (host.print (rulesListing resolver))

end Placeholders
