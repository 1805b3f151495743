/-
# EntityTables.Schema.Stored — schemas as JSON text

Writes schemas and compiled schemas, and reads schemas back. Reading takes every part as written:
it neither checks the structural rules nor that a column's kind is the one its type implies, and a
field that repeats the column's name stays.

* `Schema.toJson`, `Compiled.toJson` — fields in declaration order, an absent parent or field left
  out.
* `Schema.ofJson?`, `Schema.ofText?` — the schema of a JSON value, of a text.
-/
import EntityTables.Json.Reader
import EntityTables.Json.Structure
import EntityTables.Json.Writer
import EntityTables.Schema.Compiled

namespace EntityTables

set_option autoImplicit false

/-- A declared type: its label, or an object that gives a path to the label. -/
def DeclaredType.toJson (declared : DeclaredType) : Json :=
  match declared.label with
  | (label, none) => .text label
  | (label, some path) => .record [(label, .text path)]

/-- Reads a declared type; a label without a path may also be given as the key of a null. -/
def DeclaredType.ofJson? (json : Json) : Option DeclaredType := do
  match ← json.variant? with
  | (name, none) => ofPlainLabel? name
  | (name, some .null) => ofPlainLabel? name
  | (name, some content) => ofPathLabel? name (← content.text?)

/-- A kind by its label. -/
def ColumnKind.toJson (kind : ColumnKind) : Json := .text kind.label

/-- Reads a kind; it may also be given as the key of a null. -/
def ColumnKind.ofJson? (json : Json) : Option ColumnKind := do
  match ← json.variant? with
  | (name, none) => ofLabel? name
  | (name, some .null) => ofLabel? name
  | (_, some _) => none

namespace Column

/-- The fields of a stored column. -/
def fieldNames : List String := ["name", "field", "declared_type", "kind", "nullable"]

/-- A column as JSON. -/
def toJson (column : Column) : Json :=
  .record <|
    [("name", .text column.name)] ++
    (match column.field? with
      | some field => [("field", Json.text field)]
      | none => []) ++
    [("declared_type", column.declaredType.toJson),
     ("kind", column.kind.toJson),
     ("nullable", .bool column.nullable)]

/-- Reads a column; its field and whether it may be empty need not be given. -/
def ofJson? (json : Json) : Option Column := do
  match ← json.fields? fieldNames with
  | [name, field, declared, kind, nullable] =>
    return {
      name := ← Json.required Json.text? name
      field? := ← Json.optional Json.text? field
      declaredType := ← Json.required DeclaredType.ofJson? declared
      kind := ← Json.required ColumnKind.ofJson? kind
      nullable := ← Json.defaulted false Json.bool? nullable
    }
  | _ => none

end Column

namespace Schema

/-- The fields of a stored schema. -/
def fieldNames : List String := ["target_type", "identity_column", "columns", "parent_type"]

/-- A schema as JSON. -/
def toJson (schema : Schema) : Json :=
  .record <|
    [("target_type", .text schema.target),
     ("identity_column", .text schema.identity),
     ("columns", .array (schema.columns.map Column.toJson))] ++
    (match schema.parent? with
      | some parent => [("parent_type", Json.text parent)]
      | none => [])

/-- Reads the columns of a schema. -/
def columnsOfJson? (json : Json) : Option (List Column) := do
  (← json.array?).mapM Column.ofJson?

/-- Reads a schema; its parent need not be given. -/
def ofJson? (json : Json) : Option Schema := do
  match ← json.fields? fieldNames with
  | [target, identity, columns, parent] =>
    return {
      target := ← Json.required Json.text? target
      identity := ← Json.required Json.text? identity
      columns := ← Json.required columnsOfJson? columns
      parent? := ← Json.optional Json.text? parent
    }
  | _ => none

/-- The text of a schema. -/
def stored (schema : Schema) : String := schema.toJson.render

/-- Reads a schema from a text. -/
def ofText? (s : String) : Option Schema := (Json.ofText? s).bind ofJson?

end Schema

/-- A column plan as JSON. -/
def ColumnPlan.toJson (plan : ColumnPlan) : Json :=
  .record
    [("column", plan.column.toJson),
     ("storage", .text plan.storage.label),
     ("reader", .text plan.reader.label)]

/-- A compiled schema as JSON. -/
def Compiled.toJson (compiled : Compiled) : Json :=
  .record
    [("schema", compiled.schema.toJson),
     ("create_statement", .text compiled.createStatement),
     ("plans", .array (compiled.plans.map ColumnPlan.toJson))]

/-- The text of a compiled schema. -/
def Compiled.stored (compiled : Compiled) : String := compiled.toJson.render

end EntityTables
