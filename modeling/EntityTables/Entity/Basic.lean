/-
# EntityTables.Entity.Basic — entity types, their records and their rows

A mapping ties a type to its adapter; an entity type adds the layout of the type's records and the
record that reading starts from. A record is written without its identity and read with it, and a
relation keeps what it had.

* `Mapping.schema`, `Mapping.compile` — the schema that the adapter states again.
* `EntityType.encode`, `EntityType.mapRow`, `EntityType.decode` — records and rows.
-/
import EntityTables.Entity.Statement

namespace EntityTables

set_option autoImplicit false

/-- A type with the adapter that maps it. -/
structure Mapping where
  /-- The full path of the type, by which it is told from other types. -/
  path : String
  code : Adapter.Code
  /-- The full path of the parent, if the type has one. -/
  parentPath? : Option String
  deriving DecidableEq, Inhabited

namespace Mapping

/-- The schema of the type, as its adapter states it. -/
def schema (mapping : Mapping) : Except SchemaError Schema :=
  Schema.build mapping.path (mapping.code.steps fun named => mapping.parentPath?.getD named)

/-- The compiled schema of the type. -/
def compile (mapping : Mapping) : Except SchemaError Compiled := do
  (← mapping.schema).compile

end Mapping

/-- An entity type: its mapping, the layout of its records and the record that reading starts
from. -/
structure EntityType (objects : Objects) extends Mapping where
  layout : Layout objects
  initial : Fields layout

namespace EntityType

variable {objects : Objects}

/-- A record: the identity, and the values of the other fields. -/
structure Record (entity : EntityType objects) where
  identity : Int64
  fields : Fields entity.layout

/-- The record that reading starts from. -/
def blank (entity : EntityType objects) : entity.Record := ⟨0, entity.initial⟩

/-- Carries out writes one after the other. -/
def encodeFields {layout : Layout objects} (fields : Fields layout) :
    RowValues → List Adapter.Write → Except Error RowValues
  | values, [] => .ok values
  | values, write :: rest =>
    match write.run fields with
    | .ok value => encodeFields fields (values.put write.column value) rest
    | .error fault => .error fault

/-- The column values of a record; its identity is not among them. -/
def encode (entity : EntityType objects) (record : entity.Record) : Except Error RowValues :=
  encodeFields record.fields .empty entity.code.writes

/-- Carries out reads one after the other; a failure leaves what was read before it. -/
def readFields {layout : Layout objects} (row : Row) :
    Fields layout → List Adapter.Read → Fields layout × Except Error Unit
  | fields, [] => (fields, .ok ())
  | fields, read :: rest =>
    match read.run row fields with
    | .ok fields => readFields row fields rest
    | .error fault => (fields, .error fault)

/-- The identity that a row holds. -/
def readIdentity (entity : EntityType objects) (row : Row) : Except Error Int64 := do
  match ← Accessor.integer.read row entity.code.identity with
  | .integer i => return i
  | _ => .error (.configuration (.misfit entity.code.identity))

/-- Overwrites a record with the identity and the columns of a row, up to the first column that
cannot be read. -/
def mapRow (entity : EntityType objects) (row : Row) (record : entity.Record) :
    entity.Record × Except Error Unit :=
  match entity.readIdentity row with
  | .error fault => (record, .error fault)
  | .ok identity =>
    let (fields, outcome) := readFields row record.fields entity.code.reads
    (⟨identity, fields⟩, outcome)

/-- The record of a row. -/
def decode (entity : EntityType objects) (row : Row) : Except Error entity.Record :=
  match entity.mapRow row entity.blank with
  | (record, .ok ()) => .ok record
  | (_, .error fault) => .error fault

end EntityType

namespace Compiled

/-- The columns that a query selects to read records: the identity, then those of the table. -/
def selectedColumns (compiled : Compiled) : List String :=
  compiled.schema.identity :: compiled.inTable.map fun plan => plan.column.name

end Compiled

end EntityTables
