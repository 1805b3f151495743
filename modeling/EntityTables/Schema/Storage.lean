/-
# EntityTables.Schema.Storage — how a declared type is held in a column

Each declared type with a column form is held in one of the four storage classes and read back by
one of six readers, which use four row accessors between them.

* `Storage` — the classes; `ColumnReader` — the readers; `Accessor` — what a row offers.
* `resolve?` — class and reader of a declared type; `resolve?_eq_none_iff`: exactly the unsupported
  types have none.
-/
import EntityTables.Schema.DeclaredType

namespace EntityTables

set_option autoImplicit false

/-- The storage classes a column is declared with. -/
inductive Storage where
  | integer
  | real
  | text
  | blob
  deriving DecidableEq, Inhabited

namespace Storage

/-- The type name in a table definition. -/
def sqlName : Storage → String
  | integer => "INTEGER"
  | real => "REAL"
  | text => "TEXT"
  | blob => "BLOB"

/-- How a compiled schema spells the class. -/
def label : Storage → String
  | integer => "Integer"
  | real => "Real"
  | text => "Text"
  | blob => "Blob"

end Storage

/-- What a row offers to read one of its values. -/
inductive Accessor where
  | integer
  | real
  | text
  | bytes
  deriving DecidableEq, Inhabited

/-- The accessor's name. -/
def Accessor.name : Accessor → String
  | integer => "integer"
  | real => "real"
  | text => "text"
  | bytes => "bytes"

/-- How a stored value becomes a field again. -/
inductive ColumnReader where
  | integer
  | real
  | text
  | bytes
  /-- Milliseconds since 1970. -/
  | date
  /-- Bytes for the object's own codec. -/
  | object
  deriving DecidableEq, Inhabited

namespace ColumnReader

/-- How a compiled schema spells the reader. -/
def label : ColumnReader → String
  | integer => "Integer"
  | real => "Real"
  | text => "Text"
  | bytes => "Bytes"
  | date => "Date"
  | object => "Opaque"

/-- The row accessor that the reader uses. -/
def accessor : ColumnReader → Accessor
  | integer | date => .integer
  | real => .real
  | text => .text
  | bytes | object => .bytes

end ColumnReader

/-- Storage class and reader of a declared type; references hold the identity of a row. -/
def DeclaredType.resolve? : DeclaredType → Option (Storage × ColumnReader)
  | .integer _ | .boolean => some (.integer, .integer)
  | .float _ => some (.real, .real)
  | .char | .text => some (.text, .text)
  | .bytes => some (.blob, .bytes)
  | .dateTime => some (.integer, .date)
  | .object _ => some (.blob, .object)
  | .oneToOne _ | .oneToMany _ => some (.integer, .integer)
  | .unsupported _ => none

theorem DeclaredType.resolve?_eq_none_iff {declared : DeclaredType} :
    declared.resolve? = none ↔ ∃ path, declared = .unsupported path := by
  cases declared <;> simp [resolve?]

end EntityTables
