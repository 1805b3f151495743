/-
# EntityTables.Error — everything that can go wrong at run time

One type with a constructor for each part of the library that refuses something, and the causes
below it. `message` is the wording, which begins with the part that refuses.

* `DecodeFault` — why a column cannot become a field; `CodecFault` — why bytes cannot become an
  object; `SettingsFault` — why there are no settings; `Error` — all of them.
-/
import EntityTables.Schema.Error
import EntityTables.Schema.Storage
import EntityTables.Sql.Fault
import EntityTables.Text.Literal
import EntityTables.Text.Utf8
import EntityTables.Value.Basic

namespace EntityTables

set_option autoImplicit false

/-- Why a column cannot become a field. -/
inductive DecodeFault where
  | missing
  | unexpectedNull
  /-- The value has another class than the accessor reads. -/
  | wrongClass (expected : Accessor) (found : ValueKind)
  | dateRange (millis : Int)
  | narrowing (value : Int) (type : IntType)
  /-- A character was expected, and the text has none or several. -/
  | notOneChar (text : String)
  | brokenText (fault : Utf8Fault)
  deriving DecidableEq, Inhabited

/-- The class of values that an accessor reads. -/
def Accessor.kind : Accessor → ValueKind
  | integer => .integer
  | real => .real
  | text => .text
  | bytes => .blob

/-- The wording, without the column. -/
def DecodeFault.message : DecodeFault → String
  | missing => "no such column in result"
  | unexpectedNull => "unexpected NULL"
  | wrongClass expected found => "expected " ++ expected.kind.name ++ ", found " ++ found.name
  | dateRange millis => toString millis ++ " ms is out of range for a date"
  | narrowing value type => toString value ++ " does not fit in " ++ type.name
  | notOneChar text => "expected a single character, found " ++ Text.quoted text
  | brokenText fault => "invalid UTF-8 in TEXT: " ++ fault.message

/-- Why bytes cannot become an object, or an object bytes. -/
inductive CodecFault where
  /-- Written by a newer version of the type's codec. -/
  | newerVersion (typeName : String) (found known : Nat)
  | noHeader (typeName : String)
  | tooShort (typeName : String) (length : Nat)
  /-- The body is no JSON of the type. -/
  | badJson
  /-- The type's own codec refuses, in its own words. -/
  | refused (message : String)
  deriving DecidableEq, Inhabited

/-- The wording; a body that is no JSON has none of its own. -/
def CodecFault.message : CodecFault → String
  | newerVersion typeName found known =>
      typeName ++ " blob has version " ++ toString found ++ " but only " ++ toString known ++
        " is known"
  | noHeader typeName => typeName ++ " blob does not start with the rowforge header"
  | tooShort typeName length =>
      typeName ++ " blob is too short (" ++ toString length ++ " bytes)"
  | badJson => "malformed JSON"
  | refused message => message

/-- Why a type cannot be used as asked. -/
inductive ConfigurationFault where
  | unregistered (typeName : String)
  | noParent (typeName : String)
  /-- A statement of the type's adapter does not fit the field it is about. -/
  | misfit (field : String)
  deriving DecidableEq, Inhabited

/-- The wording. -/
def ConfigurationFault.message : ConfigurationFault → String
  | unregistered typeName => "no adapter registered for " ++ typeName
  | noParent typeName => typeName ++ " is not declared as a child of another entity"
  | misfit field => "the adapter does not fit the field " ++ field

/-- Why the storage failed. -/
inductive StorageFault where
  | sql (fault : Sql.Fault)
  /-- A failure in the words of a storage that is not the library's own. -/
  | reported (text : String)
  deriving DecidableEq, Inhabited

/-- The wording. -/
def StorageFault.message : StorageFault → String
  | sql fault => fault.message
  | reported text => text

/-- Why there are no settings. -/
inductive SettingsFault where
  | missingFile (name : String)
  /-- A file whose name does not end in that of a known format. -/
  | unknownFormat (name : String)
  | malformed
  /-- The value of a setting is no text and has none. -/
  | notText (setting : String)
  deriving DecidableEq, Inhabited

/-- The wording. -/
def SettingsFault.message : SettingsFault → String
  | missingFile name => "configuration file \"" ++ name ++ "\" not found"
  | unknownFormat name => "configuration file \"" ++ name ++ "\" is not of a registered file format"
  | malformed => "malformed settings file"
  | notText setting => "invalid type for the setting " ++ setting ++ ", expected a string"

/-- Everything that can go wrong at run time. -/
inductive Error where
  | configuration (fault : ConfigurationFault)
  | schema (fault : SchemaError)
  | codec (fault : CodecFault)
  | decode (column : String) (fault : DecodeFault)
  /-- A content identifier that leads nowhere, with its text. -/
  | unknownUri (text : String)
  | storage (fault : StorageFault)
  | settings (fault : SettingsFault)
  deriving DecidableEq, Inhabited

namespace Error

/-- The wording. -/
def message : Error → String
  | configuration fault => "Configuration error: " ++ fault.message
  | schema fault => "Schema error: " ++ fault.message
  | codec fault => "Codec error: " ++ fault.message
  | decode column fault => "Decode error in column '" ++ column ++ "': " ++ fault.message
  | unknownUri text => "Unknown URI: " ++ text
  | storage fault => "Storage error: " ++ fault.message
  | settings fault => "Settings error: " ++ fault.message

/-- A refusal by the database. -/
def ofSql (fault : Sql.Fault) : Error := storage (.sql fault)

end Error

end EntityTables
