/-
# EntityTables.Settings — where the tables are and what names them

Each setting has a default, which a settings file can replace and the environment can replace again.
What is no setting is ignored.

* `Settings.ofSources` — the settings of a file and an environment.
* `Settings.load` — the settings of a run; a file that was asked for must be there.
* `Settings.opens` — whether the database can be opened; `Settings.refuses` — whether it then takes
  no tables.
-/
import EntityTables.Database.Location
import EntityTables.Settings.File

namespace EntityTables

set_option autoImplicit false

/-- What a run can be told. -/
structure Settings where
  /-- The name of the database. -/
  database : String
  /-- The authority of content identifiers. -/
  authority : String
  /-- Which events are logged. -/
  logFilter : String
  deriving DecidableEq, Inhabited

namespace Settings

/-- The settings of a run that is told nothing. -/
def defaults : Settings := ⟨Location.inMemory, "rowforge", "info"⟩

/-- The path of the settings file that is read if it is there, without its ending. -/
def usualFile : String := "rowforge"

/-- The text of a setting: from the environment, else from the file, else the default. -/
def setting (file environment : Source) (name standard : String) : Except Error String :=
  match Source.find? name environment <|> Source.find? name file with
  | none => .ok standard
  | some (.text s) => .ok s
  | some .other => .error (.settings (.notText name))

/-- The settings of a file and an environment. -/
def ofSources (file environment : Source) : Except Error Settings := do
  return {
    database := ← setting file environment "database" defaults.database
    authority := ← setting file environment "authority" defaults.authority
    logFilter := ← setting file environment "log_filter" defaults.logFilter }

/-- What the settings file of a run says: the one that was asked for, or the usual one if it is
there. -/
def fileSource (folder : Folder) : Option String → Except Error Source
  | some path => do File.read (← File.find folder path)
  | none =>
    match File.find folder usualFile with
    | .ok file => File.read file
    | .error _ => .ok []

/-- The settings of a run. -/
def load (folder : Folder) (environment : List (String × String)) (file? : Option String) :
    Except Error Settings := do
  ofSources (← fileSource folder file?) (.ofEnvironment environment)

/-- Whether the database can be opened. -/
def opens (folder : Folder) (settings : Settings) : Bool :=
  (Location.ofName? settings.database).any (·.opens folder)

/-- Whether the database takes no tables once it is open. -/
def refuses (folder : Folder) (settings : Settings) : Bool :=
  (Location.ofName? settings.database).any (·.refuses folder)

end Settings

end EntityTables
