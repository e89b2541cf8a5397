import Placeholders.CommandLine.Switch
import Placeholders.Render

/-!
# Invocations

* `CommandLine.Command` — what the program is asked to do; `CommandLine.read` reads it from the
  arguments.
* `CommandLine.run` — does it and gives the exit code.
-/

namespace Placeholders.CommandLine

/-- A command. -/
inductive Command where
  | render (options : RenderOptions)
  | rules (config : String)
  | filters

/-! ## Reading -/

/-- The switches that go with every command and in front of it.  The one for debugging asks for
records of what is done, and there are none. -/
def common : List Switch := [.quiet, .debug, .help]

/-- The switches of the program itself. -/
def outer : List Switch := .version :: common

/-- The name of the configuration file: given, or else the default. -/
def configName (default? : Option String) (g : Given) : Except Stop String :=
  match g.value? .config, default? with
  | some name, _ => .ok name
  | none, some name => if name.isEmpty then .error .badUsage else .ok name
  | none, none => .error .badUsage

/-- Reads the switches of a command, which takes nothing else. -/
def readOwn (known : List Switch) (arguments : List String) : Except Stop Given := do
  match ← readSwitches (known ++ common) [] arguments with
  | (g, []) => pure g
  | _ => throw .badUsage

/-- The options of rendering.  They are quiet if that was asked for in front of the command or
behind it. -/
def renderOptions (config : String) (before g : Given) : RenderOptions where
  config := config
  target? := g.value? .target
  pairs := (g.values .set).filterMap fun value => (readPair value).toOption
  source? := (g.value? .sourceJson).map ObjectSource.ofName
  lenient := g.has .noThrow
  output? := g.value? .output
  quiet := before.has .quiet || g.has .quiet

/-- Reads the command that a word names.  The word `help` asks for help, on a command if one is
named. -/
def readCommand (default? : Option String) (before : Given) (word : String)
    (arguments : List String) : Except Stop Command :=
  match word with
  | "render" => do
    let g ← readOwn [.config, .target, .set, .sourceJson, .noThrow, .output] arguments
    let config ← configName default? g
    pure (.render (renderOptions config before g))
  | "rules" => do
    let g ← readOwn [.config] arguments
    let config ← configName default? g
    pure (.rules config)
  | "filters" => do
    let _ ← readOwn [] arguments
    pure .filters
  | "help" =>
    match arguments with
    | [] | ["render"] | ["rules"] | ["filters"] | ["help"] => .error .help
    | _ => .error .badUsage
  | _ => .error .badUsage

/-- Reads the arguments.  `default?` is the name of the configuration file where none is given. -/
def read (default? : Option String) (arguments : List String) : Except Stop Command := do
  match ← readSwitches outer [] arguments with
  | (before, word :: rest) => readCommand default? before word rest
  | (_, []) => throw .badUsage

/-! ## Running -/

variable {m : Type → Type} [Monad m]

/-- Runs a command. -/
def Command.run (host : Host m) : Command → ExceptT Failure m Unit
  | .render options => Placeholders.render host options
  | .rules config => listRules host config
  | .filters => ExceptT.lift (host.print (filtersListing .builtin))

/-- The name of the program and its version. -/
def versionLine : String := "inflector 0.1.0\n"

/-- How the program is used. -/
def usage : String :=
  "Resolve placeholder templates through ordered rules and filters\n\n" ++
  "Usage: inflector [OPTIONS] <COMMAND>\n\n" ++
  "Commands:\n" ++
  "  render   resolve the target of a configuration for the given values\n" ++
  "  rules    print the rules of a configuration in the order of substitution\n" ++
  "  filters  list the filters that rules can name\n" ++
  "  help     print this help\n\n" ++
  "Options:\n" ++
  "  -q, --quiet              no messages but errors\n" ++
  "  -d, --debug              debug logging\n" ++
  "  -h, --help               print this help\n" ++
  "  -V, --version            print the version\n\n" ++
  "Options of render and rules:\n" ++
  "  -c, --config FILE        the configuration; else INFLECTOR_CONFIG names it\n\n" ++
  "Options of render:\n" ++
  "  -t, --target TEMPLATE    a target in place of the one in the configuration\n" ++
  "  -s, --set KEY=VALUE      a source value, any number of times\n" ++
  "      --source-json FILE   more source values, from a JSON object; - is the input\n" ++
  "      --no-throw           leave placeholders that have no value\n" ++
  "  -o, --output FILE        write the result to a file\n"

/-- What is done instead of a command, with its exit code. -/
def Stop.run (host : Host m) : Stop → m Nat
  | .badUsage => do
    host.printError usage
    return 2
  | .help => do
    host.print usage
    return 0
  | .version => do
    host.print versionLine
    return 0

/-- Runs the program: the exit code is 0 if all went well, 1 if the command failed, and 2 if the
arguments make no sense. -/
def run (host : Host m) (default? : Option String) (arguments : List String) : m Nat :=
  match read default? arguments with
  | .error stop => stop.run host
  | .ok command => do
    match ← (command.run host).run with
    | .ok () => return 0
    | .error failure => do
      host.report .error failure.message
      return 1

end Placeholders.CommandLine
