/-
# EntityTables.CommandLine.Run — what a command line answers

Each schema file is compiled, and its table statement and adapter are printed; a file that is
refused is passed over and counts as a failure, and so does a table that cannot be created. Without
settings, or without the database that tables are to be created in, nothing is printed.

* `Answer` — status and output; `run` — the answer to the words of a command line.
-/
import EntityTables.Adapter.Source
import EntityTables.CommandLine.Arguments
import EntityTables.Gateway.Connection
import EntityTables.Schema.Stored
import EntityTables.Settings

namespace EntityTables.CommandLine

set_option autoImplicit false

/-- The status of a run and what it prints. -/
structure Answer where
  status : Nat
  output : String
  deriving DecidableEq, Inhabited

/-- What is printed on a request for help. -/
def helpText : String :=
  "Compiles schema models and prints their table statement and adapter source\n\n" ++
  "Usage: rowforge [OPTIONS] <SCHEMA>...\n\n" ++
  "Arguments:\n" ++
  "  <SCHEMA>...  Schema model files (JSON)\n\n" ++
  "Options:\n" ++
  "  -c, --config <FILE>  Settings file, instead of an optional rowforge.toml\n" ++
  "      --apply          Also create the tables in the configured database\n" ++
  "  -h, --help           Print help\n" ++
  "  -V, --version        Print version\n"

/-- What is printed on a request for the version. -/
def versionText : String := "rowforge 0.1.0\n"

/-- The compiled schema of a file, unless it is refused. -/
def compileFile? (folder : Folder) (name : String) : Option Compiled :=
  match folder.text? name with
  | none => none
  | some text =>
    match Schema.ofText? text with
    | none => none
    | some schema => schema.compile.toOption

/-- What is printed for a compiled schema. -/
def printed (compiled : Compiled) : String :=
  compiled.createStatement ++ "\n\n" ++ Adapter.render compiled ++ "\n"

/-- Where tables are created. -/
inductive Target where
  | nowhere
  /-- A database that takes no tables: every statement that makes one fails. -/
  | refusing
  | database (connection : Connection)
  deriving DecidableEq, Inhabited

/-- Creates a table: whether that was possible, and the target after it. -/
def Target.create (compiled : Compiled) : Target → Bool × Target
  | nowhere => (true, nowhere)
  | refusing => (false, refusing)
  | database connection =>
    match (Gateway.execute compiled.createStatement : Action Connection Unit) connection with
    | (outcome, after) => (outcome.toBool, database after)

/-- The answers to schema files, one after the other: whether all went well, and the output. -/
def compileAll (folder : Folder) (target : Target) : List String → Bool × String
  | [] => (true, "")
  | name :: rest =>
    match compileFile? folder name with
    | none => (false, (compileAll folder target rest).2)
    | some compiled =>
      let (created, target) := target.create compiled
      let (well, output) := compileAll folder target rest
      (created && well, printed compiled ++ output)

/-- The answer to schema files, with tables created in a target. -/
def answerIn (folder : Folder) (schemas : List String) (target : Target) : Answer :=
  let (well, output) := compileAll folder target schemas
  ⟨if well then 0 else 1, output⟩

/-- The target that settings name, if it can be opened. -/
def targetOf? (folder : Folder) (settings : Settings) : Option Target :=
  if settings.opens folder then
    some (if settings.refuses folder then .refusing else .database .empty)
  else none

/-- The answer to a request. -/
def answer (folder : Folder) (environment : List (String × String)) : Request → Answer
  | .help => ⟨0, helpText⟩
  | .version => ⟨0, versionText⟩
  | .compile schemas settings? apply =>
    match Settings.load folder environment settings? with
    | .error _ => ⟨1, ""⟩
    | .ok settings =>
      if apply then
        match targetOf? folder settings with
        | none => ⟨1, ""⟩
        | some target => answerIn folder schemas target
      else answerIn folder schemas .nowhere

/-- The answer to the words of a command line. -/
def run (folder : Folder) (environment : List (String × String)) (words : List String) : Answer :=
  match Request.ofWords words with
  | .error _ => ⟨2, ""⟩
  | .ok request => answer folder environment request

/-- The files that a request may read, by name. -/
def Request.files : Request → List String
  | .help | .version => []
  | .compile schemas settings? _ =>
    schemas ++ (Settings.File.paths (settings?.getD Settings.usualFile)).map Prod.fst

end EntityTables.CommandLine
