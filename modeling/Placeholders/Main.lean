import Placeholders.CommandLine.Invocation

/-!
# The program

* `systemHost` — files and streams of the process.
* `main` — runs the program.
-/

namespace Placeholders

/-- The fault that an error of the system stands for. -/
def faultOfError : IO.Error → FileFault
  | .noFileOrDirectory .. => .missing
  | .inappropriateType _ 20 _ => .notDirectory
  | .inappropriateType _ 21 _ => .isDirectory
  | .invalidArgument _ 36 _ => .nameTooLong
  | error => .other (toString error)

/-- An action on a file with its fault as a value. -/
def attempt {α : Type} (action : IO α) : IO (Except FileFault α) := do
  try
    let a ← action
    return .ok a
  catch error => return .error (faultOfError error)

/-- Reads a stream to its end. -/
partial def readAll (stream : IO.FS.Stream) (read : String) : IO String := do
  let line ← stream.getLine
  if line.isEmpty then return read else readAll stream (read ++ line)

/-- The process as a host. -/
def systemHost (coloured : Bool) : Host IO where
  readFile name := attempt (IO.FS.readFile name)
  writeFile name content := attempt (IO.FS.writeFile name content)
  readInput := attempt do readAll (← IO.getStdin) ""
  print text := do (← IO.getStdout).putStr text
  printError text := do (← IO.getStderr).putStr text
  coloured := coloured

end Placeholders

/-- Runs the program on its arguments.  The configuration file may be named by the environment. -/
def main (arguments : List String) : IO UInt32 := do
  let coloured ← (← IO.getStderr).isTty
  let default? ← IO.getEnv "INFLECTOR_CONFIG"
  let code ←
    Placeholders.CommandLine.run (Placeholders.systemHost coloured) default? arguments
  return code.toUInt32
