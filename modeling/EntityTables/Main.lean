/-
# EntityTables.Main — the command line

Gathers the files, folders and variables that a run may look at, and prints what `CommandLine.run`
answers.
-/
import EntityTables.CommandLine.Run

namespace EntityTables.CommandLine

set_option autoImplicit false

/-- The variables of the environment that are settings. -/
def gatherVariables : IO (List (String × String)) :=
  ["ROWFORGE_DATABASE", "ROWFORGE_AUTHORITY", "ROWFORGE_LOG_FILTER"].filterMapM fun name => do
    return (← IO.getEnv name).map fun text => (name, text)

/-- The texts of the files that can be read. -/
def gatherFiles (names : List String) : IO (List (String × String)) :=
  names.filterMapM fun (name : String) => do
    try return some (name, ← IO.FS.readFile name) catch _ => return none

/-- A folder with another in it, if there is one of that path, which ends in a slash. -/
def gatherFolder (folder : Folder) (path : String) : IO Folder := do
  try
    let _ ← IO.FS.realPath path
    return folder.withFolder path
  catch _ => return folder

/-- The files of some paths, and the folders through which the paths lead or which they name. -/
def gatherPaths (paths : List String) : IO Folder := do
  (paths.flatMap fun path => Folder.beginnings path ++ [path ++ "/"]).foldlM gatherFolder
    (.ofFiles (← gatherFiles paths))

/-- What a request may look at: its files, and the file of the database. -/
def gather (environment : List (String × String)) : Request → IO Folder
  | .help | .version => return .ofFiles []
  | .compile schemas settings? apply => do
    let paths := (Request.compile schemas settings? apply).files
    let folder ← gatherPaths paths
    match Settings.load folder environment settings? with
    | .error _ => return folder
    | .ok settings =>
      gatherPaths (paths ++ ((Location.ofName? settings.database).bind (·.path?)).toList)

end EntityTables.CommandLine

open EntityTables CommandLine in
/-- Runs the command line. -/
def main (words : List String) : IO UInt32 := do
  let environment ← gatherVariables
  let folder ← match Request.ofWords words with
    | .error _ => pure (Folder.ofFiles [])
    | .ok request => gather environment request
  let answer := run folder environment words
  IO.print answer.output
  return answer.status.toUInt32
