/-
# EntityTables.Schema.Compiled — the table of a schema and the plan of each column

Compiling checks a schema, settles how every column is stored and read, and writes the table
definition. Columns that live on the child's table have no place in it, and no relation is written
or read with the row itself.

* `Compiled` — schema, definition and plans; `compile` — its only maker.
* `createStatement`, `dropStatement` — the two statements about the whole table.
-/
import EntityTables.Schema.Basic
import EntityTables.Schema.Storage
import EntityTables.Sql.Name

namespace EntityTables

set_option autoImplicit false

/-- A column with its storage class and reader. -/
structure ColumnPlan where
  column : Column
  storage : Storage
  reader : ColumnReader
  deriving DecidableEq, Inhabited

namespace ColumnPlan

/-- How the column's type is stored and read, or the field that has no column form. -/
def ofColumn (column : Column) : Except SchemaError ColumnPlan :=
  match column.declaredType.resolve? with
  | some (storage, reader) => .ok ⟨column, storage, reader⟩
  | none => .error (.unmappedType column.field column.declaredType)

/-- Whether the column stands in the table definition. -/
def inTable (plan : ColumnPlan) : Bool := plan.column.kind != .oneToManyParentField

/-- Whether the column is written and read with the row. -/
def isMapped (plan : ColumnPlan) : Bool := !plan.column.kind.isRelation

theorem inTable_of_isMapped {plan : ColumnPlan} (h : plan.isMapped = true) :
    plan.inTable = true := by
  revert h
  simp only [isMapped, inTable]
  cases plan.column.kind <;> decide

end ColumnPlan

namespace Schema

/-- The plans of all columns, or the first that has none. -/
def plans (schema : Schema) : Except SchemaError (List ColumnPlan) :=
  schema.columns.mapM ColumnPlan.ofColumn

/-- The columns of the table definition: the identity, then each planned column in order. -/
def definitionClauses (identity : String) (plans : List ColumnPlan) : List String :=
  (Sql.quoteName identity ++ " INTEGER PRIMARY KEY AUTOINCREMENT") ::
    (plans.filter ColumnPlan.inTable).map fun plan =>
      Sql.quoteName plan.column.name ++ " " ++ plan.storage.sqlName

/-- The statement that defines the table. -/
def definition (schema : Schema) (plans : List ColumnPlan) : String :=
  "CREATE TABLE " ++ Sql.quoteName schema.table ++ " (" ++
    ", ".intercalate (definitionClauses schema.identity plans) ++ ");"

/-- The definition of a schema that passes every rule. -/
def createStatement (schema : Schema) : Except SchemaError String := do
  schema.check
  return schema.definition (← schema.plans)

/-- The statement that removes the table if it is there. -/
def dropStatement (schema : Schema) : String :=
  "DROP TABLE IF EXISTS " ++ Sql.quoteName schema.table

end Schema

/-- A checked schema with its table definition and the plan of each column. -/
structure Compiled where
  schema : Schema
  createStatement : String
  plans : List ColumnPlan
  deriving DecidableEq, Inhabited

namespace Compiled

/-- The statement that removes the table if it is there. -/
def dropStatement (compiled : Compiled) : String := compiled.schema.dropStatement

/-- The plans of the columns that are written and read with the row. -/
def mapped (compiled : Compiled) : List ColumnPlan := compiled.plans.filter ColumnPlan.isMapped

/-- The plans of the columns in the table definition. -/
def inTable (compiled : Compiled) : List ColumnPlan := compiled.plans.filter ColumnPlan.inTable

end Compiled

/-- Compiles a schema, or tells the first rule that it breaks. -/
def Schema.compile (schema : Schema) : Except SchemaError Compiled := do
  schema.check
  let plans ← schema.plans
  return ⟨schema, schema.definition plans, plans⟩

end EntityTables
