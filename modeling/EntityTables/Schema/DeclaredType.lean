/-
# EntityTables.Schema.DeclaredType — what a field declares itself to be

A field is an integer, a truth value, a float, a character, a text, a date, raw bytes, or an object
of some other type; it may refer to one row or to many rows of another entity; or it has a type
that no column can hold, kept so that a later refusal can name it.

* `DeclaredType` with its spelling in source (`spelling`) and in messages (`description`).
* `ColumnKind` — the part a column plays; `ColumnKind.of` is the one its declared type implies, and
  the marker of a child row is the one that no declared type implies.
-/
import EntityTables.Schema.IntType

namespace EntityTables

set_option autoImplicit false

/-- The two binary floating point formats. -/
inductive Precision where
  | single
  | double
  deriving DecidableEq, Inhabited

/-- The semantic type of a mapped field. -/
inductive DeclaredType where
  | integer (type : IntType)
  | boolean
  | float (precision : Precision)
  | char
  | text
  | dateTime
  | bytes
  /-- Any other type, stored through a codec of its own. -/
  | object (path : String)
  /-- A reference to one row of another entity. -/
  | oneToOne (path : String)
  /-- A collection of rows of another entity. -/
  | oneToMany (path : String)
  /-- A type without a column form. -/
  | unsupported (path : String)
  deriving DecidableEq, Inhabited

namespace DeclaredType

/-- How source text spells the type. -/
def spelling : DeclaredType → String
  | integer type => type.name
  | boolean => "bool"
  | float .single => "f32"
  | float .double => "f64"
  | char => "char"
  | text => "String"
  | dateTime => "DateTime<Utc>"
  | bytes => "Vec<u8>"
  | object path | oneToOne path | oneToMany path | unsupported path => path

/-- How messages name the type: as spelled, a reference with its direction in front. -/
def description : DeclaredType → String
  | oneToOne path => "one-to-one " ++ path
  | oneToMany path => "one-to-many " ++ path
  | declared => declared.spelling

/-- The name of the variant, and the path it carries if it is one of those that do. -/
def label : DeclaredType → String × Option String
  | integer type => (type.label, none)
  | boolean => ("Boolean", none)
  | float .single => ("Float32", none)
  | float .double => ("Float64", none)
  | char => ("Char", none)
  | text => ("Text", none)
  | dateTime => ("DateTime", none)
  | bytes => ("Bytes", none)
  | object path => ("Object", some path)
  | oneToOne path => ("OneToOne", some path)
  | oneToMany path => ("OneToMany", some path)
  | unsupported path => ("Unsupported", some path)

/-- The types that carry no path. -/
def plain : List DeclaredType :=
  IntType.all.map integer ++
    [boolean, float .single, float .double, char, text, dateTime, bytes]

/-- The type without a path that a label names. -/
def ofPlainLabel? (name : String) : Option DeclaredType :=
  plain.find? fun declared => declared.label.1 == name

/-- The type that a label names together with the path it carries. -/
def ofPathLabel? (name path : String) : Option DeclaredType :=
  match name with
  | "Object" => some (object path)
  | "OneToOne" => some (oneToOne path)
  | "OneToMany" => some (oneToMany path)
  | "Unsupported" => some (unsupported path)
  | _ => none

theorem ofPlainLabel?_label {declared : DeclaredType} (plain : declared.label.2 = none) :
    ofPlainLabel? declared.label.1 = some declared := by
  cases declared with
  | integer type => cases type <;> decide
  | float precision => cases precision <;> decide
  | object path | oneToOne path | oneToMany path | unsupported path => cases plain
  | _ => decide

theorem ofPathLabel?_label {declared : DeclaredType} {path : String}
    (carried : declared.label.2 = some path) :
    ofPathLabel? declared.label.1 path = some declared := by
  cases declared with
  | object | oneToOne | oneToMany | unsupported =>
    cases carried
    rfl
  | integer type => cases type <;> cases carried
  | float precision => cases precision <;> cases carried
  | _ => cases carried

end DeclaredType

/-- The part that a column plays in its table. -/
inductive ColumnKind where
  | scalar
  | date
  | blobOpaque
  | blobRaw
  | oneToOne
  | oneToManyParentField
  | oneToManyChildMarker
  deriving DecidableEq, Inhabited

namespace ColumnKind

/-- The kind that a declared type implies. -/
def of : DeclaredType → ColumnKind
  | .dateTime => date
  | .bytes => blobRaw
  | .object _ => blobOpaque
  | .oneToOne _ => oneToOne
  | .oneToMany _ => oneToManyParentField
  | _ => scalar

/-- Relations are neither written nor read with the row itself. -/
def isRelation : ColumnKind → Bool
  | oneToOne | oneToManyParentField | oneToManyChildMarker => true
  | _ => false

/-- How a schema spells the kind. -/
def label : ColumnKind → String
  | scalar => "scalar"
  | date => "date"
  | blobOpaque => "blob_opaque"
  | blobRaw => "blob_raw"
  | oneToOne => "one_to_one"
  | oneToManyParentField => "one_to_many_parent_field"
  | oneToManyChildMarker => "one_to_many_child_marker"

/-- All kinds, in the order of their declaration. -/
def all : List ColumnKind :=
  [scalar, date, blobOpaque, blobRaw, oneToOne, oneToManyParentField, oneToManyChildMarker]

/-- The kind that a label names. -/
def ofLabel? (name : String) : Option ColumnKind :=
  all.find? fun kind => kind.label == name

theorem ofLabel?_label (kind : ColumnKind) : ofLabel? kind.label = some kind := by
  cases kind <;> decide

/-- No declared type makes a column the marker of a child row. -/
theorem of_ne_childMarker (declared : DeclaredType) :
    of declared ≠ oneToManyChildMarker := by
  cases declared <;> simp [of]

end ColumnKind

end EntityTables
