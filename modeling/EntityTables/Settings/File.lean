/-
# EntityTables.Settings.File — the files that hold settings

A settings file has the ending of its format. If there is no file of the name that is asked for, the
ending is taken to have been left out.

* `File.find` — a settings file's format and text; `File.read` — what it says.
-/
import EntityTables.Error
import EntityTables.Folder
import EntityTables.Settings.Source
import EntityTables.Toml.Reader

namespace EntityTables.Settings

set_option autoImplicit false

/-- How a settings file is written. -/
inductive Format where
  | toml
  | json
  deriving DecidableEq, Inhabited

namespace Format

/-- The ending of files of a format. -/
def ending : Format → String
  | toml => ".toml"
  | json => ".json"

/-- The formats, in the order in which files are looked for. -/
def all : List Format := [toml, json]

/-- The format that the name of a file ends in, behind something else. -/
def ofPath? (path : String) : Option Format :=
  let name := (Folder.lastPart path).toList
  all.find? fun format =>
    format.ending.toList.isSuffixOf name && format.ending.length < name.length

/-- What a text of a format says. A byte order mark in front does not count. -/
def read? (format : Format) (text : String) : Option Source :=
  let cs := text.toList
  let text := if cs.head? = some '\ufeff' then String.ofList (cs.drop 1) else text
  match format with
  | toml => (Toml.readDocument text).map Source.ofTable
  | json => (Json.ofText? text).bind Source.ofJson?

end Format

namespace File

/-- The paths at which a settings file may be, with the formats of those whose ending was left
out. -/
def paths (path : String) : List (String × Option Format) :=
  (path, none) ::
    Format.all.filterMap fun format =>
      (Folder.withEnding? path format.ending).map fun path => (path, some format)

/-- The format and the text of a settings file. -/
def find (folder : Folder) (path : String) : Except Error (Format × String) :=
  let found? := (paths path).findSome? fun (path, format?) =>
    (folder.text? path).map fun text => (format? <|> Format.ofPath? path, text)
  match found? with
  | some (some format, text) => .ok (format, text)
  | some (none, _) => .error (.settings (.unknownFormat path))
  | none => .error (.settings (.missingFile path))

/-- What a settings file says. -/
def read (file : Format × String) : Except Error Source :=
  match file.1.read? file.2 with
  | some source => .ok source
  | none => .error (.settings .malformed)

end File

end EntityTables.Settings
