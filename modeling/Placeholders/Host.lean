import Placeholders.FileSystem

/-!
# Surroundings of a program

A program reads and writes files and the standard streams.  What it does is the same wherever it
runs, so it is written for any `Host`.

* `Host` — what a program can do to its surroundings.
* `World` — surroundings as a value; `World.host` — a program as a function on them.
-/

namespace Placeholders

/-- What a program can do to its surroundings. -/
structure Host (m : Type → Type) where
  readFile : String → m (Except FileFault String)
  /-- makes a file or replaces the content of one -/
  writeFile : String → String → m (Except FileFault Unit)
  /-- all of the standard input -/
  readInput : m (Except FileFault String)
  /-- writes to the standard output -/
  print : String → m Unit
  /-- writes to the standard error -/
  printError : String → m Unit
  /-- can the standard error show colours? -/
  coloured : Bool := false

/-- Surroundings: the files, what is left of the standard input, what was written. -/
structure World where
  files : FileSystem := {}
  input : String := ""
  output : String := ""
  errors : String := ""
  deriving DecidableEq

namespace World

/-- Writes a file, if that is possible. -/
def writeFile (name content : String) (w : World) : Except FileFault Unit × World :=
  match w.files.write name content with
  | .ok files => (.ok (), { w with files := files })
  | .error fault => (.error fault, w)

/-- A world as a host. -/
def host : Host (StateM World) where
  readFile name := do return (← get).files.read name
  writeFile name content := modifyGet (writeFile name content)
  readInput := modifyGet fun w => (.ok w.input, { w with input := "" })
  print text := modify fun w => { w with output := w.output ++ text }
  printError text := modify fun w => { w with errors := w.errors ++ text }

end World

end Placeholders
