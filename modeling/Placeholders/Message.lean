/-!
# Messages

* `Message` — a message to the user, of some severity; `Message.render` — its line.
* `LogLevel` — how much is logged; `LogLevel.ofFlags?` — what the command line asks for.
-/

namespace Placeholders

/-- How grave a message is. -/
inductive Severity where
  | info
  | warning
  | error
  deriving DecidableEq

/-- The word in front of a message. -/
def Severity.word : Severity → String
  | .info => "info"
  | .warning => "warning"
  | .error => "error"

/-- The word in the colour of its severity: cyan, yellow, and bold red. -/
def Severity.colouredWord : Severity → String
  | .info => "\x1b[36minfo\x1b[39m"
  | .warning => "\x1b[33mwarning\x1b[39m"
  | .error => "\x1b[1m\x1b[31merror\x1b[39m\x1b[0m"

/-- A message to the user. -/
structure Message where
  severity : Severity
  text : String
  deriving DecidableEq

/-- The line of a message. -/
def Message.render (coloured : Bool) (m : Message) : String :=
  let word := if coloured then m.severity.colouredWord else m.severity.word
  "[" ++ word ++ "] " ++ m.text ++ "\n"

/-- How much is logged. -/
inductive LogLevel where
  | off
  | debug
  deriving DecidableEq

/-- The level that the flags ask for, if they ask for one.  Quiet wins. -/
def LogLevel.ofFlags? (quiet debug : Bool) : Option LogLevel :=
  if quiet then some .off else if debug then some .debug else none

end Placeholders
