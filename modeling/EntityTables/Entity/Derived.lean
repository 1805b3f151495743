/-
# EntityTables.Entity.Derived — the entity type of a compiled schema

The records of a derived entity have one field for each column of its schema but the reference to a
parent, of the type that the column declares, and start with empty values.

* `Layout.ofColumns?` — the fields of a schema's records.
* `EntityType.ofCompiled?` — the entity type, if the object types that it names are known.
-/
import EntityTables.Entity.Basic

namespace EntityTables

set_option autoImplicit false

variable {objects : Objects}

/-- The type of values that a column of a declared type holds. -/
def PlainType.ofDeclared? : DeclaredType → Option (PlainType objects)
  | .integer type => some (.integer type)
  | .boolean => some .boolean
  | .float .single => some .single
  | .float .double => some .double
  | .char => some .char
  | .text => some .text
  | .dateTime => some .dateTime
  | .bytes => some .bytes
  | .object path => (objects.ofPath? path).map PlainType.object
  | .oneToOne _ | .oneToMany _ | .unsupported _ => none

/-- The type of the field of a column. -/
def FieldType.ofColumn? (column : Column) : Option (FieldType objects) :=
  match column.declaredType with
  | .oneToOne path => some (.relation (.oneToOne path))
  | .oneToMany path => some (.relation (.oneToMany path))
  | declared =>
    (PlainType.ofDeclared? declared).map fun type =>
      if column.nullable then .optional type else .plain type

/-- The fields of columns, the reference to a parent left out. -/
def Layout.ofColumns? (columns : List Column) : Option (Layout objects) :=
  (columns.filter fun column => column.kind != .oneToManyChildMarker).mapM fun column =>
    (FieldType.ofColumn? column).map fun type => (column.field, type)

/-- The value that a field of a type starts with. -/
def PlainType.initial : (type : PlainType objects) → type.Carrier
  | .integer type => ⟨0, type.holds_zero⟩
  | .boolean => false
  | .single => ⟨0⟩
  | .double => ⟨0⟩
  | .char => '\x00'
  | .text => ""
  | .dateTime => Instant.epoch
  | .bytes => []
  | .object key => objects.initial key

/-- The value that a field starts with. -/
def FieldType.initial : (type : FieldType objects) → type.Carrier
  | .plain type => type.initial
  | .optional _ => none
  | .relation declared => objects.initialRelation declared

/-- The values that the fields of a layout start with. -/
def Fields.initial : (layout : Layout objects) → Fields layout
  | [] => ()
  | (_, type) :: rest => (type.initial, initial rest)

/-- The entity type of a compiled schema, under the full paths of its type and of its parent. -/
def EntityType.ofCompiled? (compiled : Compiled) (path : String) (parentPath? : Option String) :
    Option (EntityType objects) :=
  (Layout.ofColumns? compiled.schema.columns).map fun layout =>
    { path, code := .ofCompiled compiled, parentPath?, layout, initial := Fields.initial layout }

end EntityTables
