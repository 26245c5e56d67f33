import PromptRelay.Text.Bytes
import PromptRelay.Text.Pieces

/-!
Contract: what the program finds around it when it starts: files, the directory that
it works in, and the variables of its environment.

Owns:
- following a path through directories, and why it leads nowhere;
- reading a file as text, and whether a path leads anywhere at all;
- looking up a variable, as bytes and as text.

Does not own: which files and variables the program looks at.
-/

namespace PromptRelay

open Text

inductive Entry where
  | file (content : Bytes)
  | directory
deriving DecidableEq, Repr

/-- Files and directories. Each is listed at its place, which is given by the names that
lead to it from the root. The directories on the way need not be listed. -/
structure Files where
  entries : List (List String × Entry) := []
  /-- The place that relative paths start from, which is a directory. -/
  directory : List String := []
deriving Repr

structure World extends Files where
  environment : List (String × Bytes) := []
deriving Repr

/-- Why a text could not be read from a path. -/
inductive ReadError where
  | notFound
  | notADirectory
  | isADirectory
  | nameTooLong
  | nulInName
  | notText
deriving DecidableEq, Repr

def ReadError.message : ReadError → String
  | .notFound => "No such file or directory (os error 2)"
  | .notADirectory => "Not a directory (os error 20)"
  | .isADirectory => "Is a directory (os error 21)"
  | .nameTooLong => "File name too long (os error 36)"
  | .nulInName => "file name contained an unexpected NUL byte"
  | .notText => "stream did not contain valid UTF-8"

/-- The names that a path is made of, empty ones included. -/
def pathNames (path : String) : List String :=
  (split '/' path.toList).map String.ofList

/-- The most bytes that a name may have. -/
def longestName : Nat := 255

/-- The most bytes that a path may have. -/
def longestPath : Nat := 4095

namespace Files

/-- What lies at a place. -/
def entryAt? (files : Files) (place : List String) : Option Entry :=
  match files.entries.lookup place with
  | some entry => some entry
  | none =>
    if place.isPrefixOf files.directory ||
        files.entries.any (fun entry => place.isPrefixOf entry.1) then
      some .directory
    else
      none

/-- Follows names from a place. An empty name and a dot stay, two dots lead one
directory up, of which the root has none; every name is looked up in a directory. -/
def follow (files : Files) : (place : List String) → List String → Except ReadError (List String)
  | place, [] => .ok place
  | place, name :: names =>
    match files.entryAt? place with
    | none => .error .notFound
    | some (.file _) => .error .notADirectory
    | some .directory =>
      if name = "" || name = "." then
        files.follow place names
      else if name = ".." then
        files.follow place.dropLast names
      else if longestName < name.utf8ByteSize then
        .error .nameTooLong
      else if (files.entryAt? (place ++ [name])).isNone then
        .error .notFound
      else
        files.follow (place ++ [name]) names

/-- Where a path starts from: an absolute one from the root. -/
def startOf (files : Files) (path : String) : List String :=
  if path.toList.head? = some '/' then [] else files.directory

/-- The entry that a path leads to. -/
def find (files : Files) (path : String) : Except ReadError Entry :=
  if path.toList.contains '\x00' then .error .nulInName
  else if path.isEmpty then .error .notFound
  else if longestPath < path.utf8ByteSize then .error .nameTooLong
  else do
    let place ← files.follow (files.startOf path) (pathNames path)
    match files.entryAt? place with
    | some entry => .ok entry
    | none => .error .notFound

/-- Whether a path leads to a file or a directory. -/
def contains (files : Files) (path : String) : Bool :=
  match files.find path with
  | .ok _ => true
  | .error _ => false

/-- The text of the file that a path leads to. -/
def readText (files : Files) (path : String) : Except ReadError String := do
  match ← files.find path with
  | .directory => .error .isADirectory
  | .file content =>
    match ofBytes? content with
    | some text => .ok text
    | none => .error .notText

end Files

namespace World

/-- The value of a variable that is set. -/
def variableBytes? (world : World) (name : String) : Option Bytes :=
  world.environment.lookup name

/-- The value of a variable that is set to valid UTF-8. -/
def variableText? (world : World) (name : String) : Option String :=
  (world.variableBytes? name).bind ofBytes?

end World

end PromptRelay
