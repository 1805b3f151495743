/-
# EntityTables.Entity.Fields — the fields of a record and their values

A field holds a plain value, perhaps none, or whatever a relation is to its owner: relations are
neither stored nor read, so their values stay closed to the library. The object types and their
codecs are a parameter of everything that deals with records.

* `Objects` — the parameter; `PlainType`, `FieldType` — the types of fields with their `Carrier`.
* `Fields` — the values of a list of fields; `Fields.visit?`, `Fields.replace?` — by a field's name.
-/
import EntityTables.Codec.Basic
import EntityTables.Value.Conversion

namespace EntityTables

set_option autoImplicit false

/-- The object types of records: the values and the codec of each, the values of relations, and what
a new record starts with. -/
structure Objects where
  Key : Type
  Carrier : Key → Type
  codec : (key : Key) → Codec (Carrier key)
  initial : (key : Key) → Carrier key
  /-- The object type that a path names. -/
  ofPath? : String → Option Key
  Relation : Type
  initialRelation : DeclaredType → Relation

/-- The types of values that a column holds. -/
inductive PlainType (objects : Objects) where
  | integer (type : IntType)
  | boolean
  | single
  | double
  | char
  | text
  | dateTime
  | bytes
  | object (key : objects.Key)

/-- The values of a type. -/
@[reducible] def PlainType.Carrier {objects : Objects} : PlainType objects → Type
  | .integer type => type.Range
  | .boolean => Bool
  | .single => Single
  | .double => Double
  | .char => Char
  | .text => String
  | .dateTime => Instant
  | .bytes => List UInt8
  | .object key => objects.Carrier key

/-- The types of fields. -/
inductive FieldType (objects : Objects) where
  | plain (type : PlainType objects)
  | optional (type : PlainType objects)
  | relation (declared : DeclaredType)

/-- The values of a field. -/
@[reducible] def FieldType.Carrier {objects : Objects} : FieldType objects → Type
  | .plain type => type.Carrier
  | .optional type => Option type.Carrier
  | .relation _ => objects.Relation

/-- The names and types of a record's fields, without its identity. -/
abbrev Layout (objects : Objects) := List (String × FieldType objects)

/-- The values of a record's fields. -/
@[reducible] def Fields {objects : Objects} : Layout objects → Type
  | [] => Unit
  | (_, type) :: rest => type.Carrier × Fields rest

namespace Fields

variable {objects : Objects}

/-- What a function makes of the value of the field with a name, if there is such a field. -/
def visit? {α : Type} (name : String) (use : (type : FieldType objects) → type.Carrier → α) :
    (layout : Layout objects) → Fields layout → Option α
  | [], () => none
  | (other, type) :: rest, (value, values) =>
    if other = name then some (use type value) else visit? name use rest values

/-- The fields with a new value for the one with a name, unless making the value fails; nothing if
there is no such field or none can be made for its type. -/
def replace? (name : String)
    (make : (type : FieldType objects) → Option (Except Error type.Carrier)) :
    (layout : Layout objects) → Fields layout → Option (Except Error (Fields layout))
  | [], () => none
  | (other, type) :: rest, (value, values) =>
    if other = name then (make type).map fun made => made.map fun made => (made, values)
    else (replace? name make rest values).map fun others => others.map fun others => (value, others)

end Fields

end EntityTables
