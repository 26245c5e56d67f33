import PromptRelay.Command.Line

/-!
Contract: the program, which runs a command line on the files and variables of its
process.

Owns:
- taking the variables of the process and the files a command may look at;
- showing what a command comes to.

Does not own: any decision of a command.
-/

namespace PromptRelay

open Text

/-! ## What the process has -/

/-- The variable in a `name=value` entry. -/
def readVariable? (entry : Bytes) : Option (String × Bytes) := do
  let name ← ofBytes? (entry.takeWhile (· ≠ '='.toUInt8))
  some (name, entry.drop (name.utf8ByteSize + 1))

/-- The variables of the process, each ended by a zero byte. -/
def readEnvironment : IO (List (String × Bytes)) := do
  let .ok content ← (IO.FS.readBinFile "/proc/self/environ").toBaseIO | return []
  return (split 0 content.toList).filterMap readVariable?

/-- The place that a path leads to if every name on it is a directory. -/
def placeOf (directory : List String) (path : String) : List String :=
  let start := ({ directory } : Files).startOf path
  (pathNames path).foldl (fun place name =>
    if name = "" || name = "." then place
    else if name = ".." then place.dropLast
    else place ++ [name]) start

def readEntry? (place : List String) : IO (Option Entry) := do
  let path := (← IO.currentDir) / ("/" ++ "/".intercalate place)
  if ← path.isDir then return some .directory
  let .ok content ← (IO.FS.readBinFile path).toBaseIO | return none
  return some (.file content.toList)

/-- The entries on the ways to the given places. -/
def readEntries (places : List (List String)) : IO (List (List String × Entry)) := do
  let ways := (places.flatMap fun place =>
    (List.range (place.length + 1)).map place.take).eraseDups
  let found ← ways.mapM fun place => return (← readEntry? place).map (place, ·)
  return found.filterMap id

/-! ## Running -/

/-- The paths that an invocation is given. -/
def Command.Invocation.paths : Command.Invocation → List String
  | .preview input template => input :: template.toList
  | _ => []

/-- The world of an invocation. The settings tell one more path. -/
def readWorld (invocation : Command.Invocation) : IO World := do
  let environment ← readEnvironment
  let directory := (pathNames (← IO.currentDir).toString).filter (· ≠ "")
  let given := usualPaths ++ invocation.paths
  let entries ← readEntries (given.map (placeOf directory))
  let first : World := { entries, directory, environment }
  let .ok settings := Settings.load first {} | return first
  let paths := given ++ settings.prompt.path.toList
  return { first with entries := ← readEntries (paths.map (placeOf directory)) }

def usage : String :=
  "usage: prompt-relay config\n" ++
  "       prompt-relay doctor [--json]\n" ++
  "       prompt-relay render --input <FILE> [--template <FILE>]\n" ++
  "       prompt-relay help [COMMAND]"

end PromptRelay

open PromptRelay in
/-- A refused command line ends with exit code 2. -/
def main (arguments : List String) : IO UInt32 := do
  let some invocation := Command.Invocation.ofArguments arguments
    | IO.eprintln usage
      return 2
  match invocation.run (← readWorld invocation) with
  | .error crash =>
    IO.eprintln crash.message
    return UInt32.ofNat crash.exitCode
  | .ok none =>
    IO.println usage
    return 0
  | .ok (some result) =>
    IO.println result.output
    return UInt32.ofNat result.exitCode
