/-!
# Files

* `FileFault` — why a file cannot be read or written.
* `FileSystem` — a tree of directories with text files; `read` and `write` take a file by its name.
-/

namespace Placeholders

/-- Why a file cannot be read or written. -/
inductive FileFault where
  | missing
  | notDirectory
  | isDirectory
  | nameTooLong
  /-- the name has a NUL in it -/
  | badName
  /-- what the system says otherwise -/
  | other (text : String)
  deriving DecidableEq

/-- The text of a fault, with the number that the system gives it. -/
def FileFault.text : FileFault → String
  | .missing => "No such file or directory (os error 2)"
  | .notDirectory => "Not a directory (os error 20)"
  | .isDirectory => "Is a directory (os error 21)"
  | .nameTooLong => "File name too long (os error 36)"
  | .badName => "file name contained an unexpected NUL byte"
  | .other text => text

/-- The names on the way from the working directory to a file.  Two dots lead to the directory
around it, and a slash to the root. -/
abbrev FilePath := List String

/-- The parts of a name between slashes, of which there is one more than slashes. -/
def nameParts : List Char → List (List Char)
  | [] => [[]]
  | c :: rest =>
    match nameParts rest with
    | part :: parts => if c = '/' then [] :: part :: parts else (c :: part) :: parts
    | [] => [[c]]

/-- The parts of the name of a file. -/
def FilePath.parts (name : String) : List String := (nameParts name.toList).map String.ofList

/-- Where a name starts: with a slash at the root, otherwise at the working directory. -/
def FilePath.origin (name : String) : FilePath :=
  if name.toList.head? = some '/' then ["/"] else []

/-- The directory around that at a path.  The one around the root is the root. -/
def FilePath.parent (path : FilePath) : FilePath :=
  match path.getLast? with
  | none => [".."]
  | some ".." => path ++ [".."]
  | some "/" => path
  | some _ => path.dropLast

/-- The directories around the working directory. -/
def FilePath.isAround (path : FilePath) : Bool := path == ["/"] || path.all (· == "..")

/-- The parts of a name without the empty ones that slashes at its end leave. -/
def FilePath.trimmedParts (name : String) : List String :=
  ((FilePath.parts name).reverse.dropWhile (·.isEmpty)).reverse

/-- How many bytes a part of a name may have. -/
def maxPartSize : Nat := 255

/-- How many bytes a name may have. -/
def maxNameSize : Nat := 4095

/-- Text files by their paths.  A directory is there as long as there is a file in it; the working
directory and those around it always are, and nothing else is known to be in them. -/
structure FileSystem where
  files : List (FilePath × String) := []
  deriving DecidableEq

namespace FileSystem

/-- What can be at a path. -/
inductive Entry where
  | file (content : String)
  | directory
  | nothing
  deriving DecidableEq

/-- What is at a path. -/
def entry (fs : FileSystem) (path : FilePath) : Entry :=
  match fs.files.lookup path with
  | some content => .file content
  | none =>
    if path.isAround ∨ fs.files.any fun file => path.isPrefixOf file.1 then .directory
    else .nothing

/-- Goes from a directory along the parts of a name.  Whatever has a part after it has to be a
directory; a dot and an empty part stay there, two dots lead back. -/
def walk (fs : FileSystem) (path : FilePath) : List String → Except FileFault FilePath
  | [] => .ok path
  | part :: rest =>
    match fs.entry path with
    | .nothing => .error .missing
    | .file _ => .error .notDirectory
    | .directory =>
      if part = "" ∨ part = "." then walk fs path rest
      else if part = ".." then walk fs path.parent rest
      else if maxPartSize < part.utf8ByteSize then .error .nameTooLong
      else walk fs (path ++ [part]) rest

/-- Can the name be one at all? -/
def checkName (name : String) : Except FileFault Unit :=
  if name.toList.contains '\x00' then .error .badName
  else if name.isEmpty then .error .missing
  else if maxNameSize < name.utf8ByteSize then .error .nameTooLong
  else .ok ()

/-- The path of a file with a given name. -/
def locate (fs : FileSystem) (name : String) : Except FileFault FilePath := do
  checkName name
  fs.walk (FilePath.origin name) (FilePath.parts name)

/-- Does the name end in a slash behind a part that is no dot?  Then it can only be the name of a
directory. -/
def namesDirectory (name : String) : Bool :=
  match (FilePath.trimmedParts name).getLast? with
  | some last => name.toList.getLast? == some '/' && last != "." && last != ".."
  | none => false

/-- The path of a file that is to be made or replaced.  The name of a directory is none, whether it
is there or not, as long as the directory around it is. -/
def locateNew (fs : FileSystem) (name : String) : Except FileFault FilePath :=
  if namesDirectory name then do
    checkName name
    let _ ← fs.walk (FilePath.origin name) ((FilePath.trimmedParts name).dropLast ++ [""])
    throw .isDirectory
  else fs.locate name

/-- The content of a file. -/
def read (fs : FileSystem) (name : String) : Except FileFault String := do
  let path ← fs.locate name
  match fs.entry path with
  | .file content => pure content
  | .directory => throw .isDirectory
  | .nothing => throw .missing

/-- Gives a file new content. -/
def put (path : FilePath) (content : String) :
    List (FilePath × String) → List (FilePath × String)
  | [] => [(path, content)]
  | file :: rest => if file.1 = path then (path, content) :: rest else file :: put path content rest

/-- Writes a file.  A new one is made if there is a directory for it. -/
def write (fs : FileSystem) (name content : String) : Except FileFault FileSystem := do
  let path ← fs.locateNew name
  match fs.entry path with
  | .directory => throw .isDirectory
  | _ => pure ⟨put path content fs.files⟩

/-- The file system with files under given names, made in the order given. -/
def ofList (files : List (String × String)) : FileSystem :=
  ⟨files.foldl (fun fs (name, content) =>
    put ((FilePath.parts name).filter fun part => part ≠ "" ∧ part ≠ ".") content fs) []⟩

end FileSystem

end Placeholders
