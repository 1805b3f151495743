/-
# EntityTables.Adapter.Code — the adapter of an entity, as data

What the adapter of a compiled schema does, before it is text: the steps that state the schema
again, one write per mapped column and one read per mapped column. `Adapter.Source` prints this
code; `Entity.Statement` carries it out on records and rows.

* `Encoding.of`, `Decoding.of` — how a declared type becomes a column value, and back.
* `Code.ofCompiled` — the adapter of a compiled schema.
-/
import EntityTables.Schema.Compiled

namespace EntityTables.Adapter

set_option autoImplicit false

/-- How a field becomes a column value. -/
inductive Encoding where
  /-- A value that is copied as it stands: integers, floats and characters. -/
  | copied
  | text
  | bytes
  | boolean
  | date
  /-- Bytes from the object's own codec, which may refuse. -/
  | object
  deriving DecidableEq, Inhabited

/-- The encoding of a declared type. -/
def Encoding.of : DeclaredType → Encoding
  | .text => text
  | .bytes => bytes
  | .boolean => boolean
  | .dateTime => date
  | .object _ => object
  | _ => copied

/-- How a column value becomes a field. -/
inductive Decoding where
  /-- The accessor's result is the field. -/
  | direct
  | boolean
  /-- Rounded to single precision. -/
  | single
  | char
  | date
  | object
  /-- Narrowed to the field's own integer type. -/
  | narrow
  deriving DecidableEq, Inhabited

/-- The decoding of a declared type. -/
def Decoding.of : DeclaredType → Decoding
  | .integer .int64 | .float .double | .text | .bytes => direct
  | .boolean => boolean
  | .float .single => single
  | .char => char
  | .dateTime => date
  | .object _ => object
  | _ => narrow

/-- Writes one field into its column. -/
structure Write where
  column : String
  field : String
  optional : Bool
  encoding : Encoding
  deriving DecidableEq, Inhabited

/-- The write of a planned column. -/
def Write.ofPlan (plan : ColumnPlan) : Write :=
  ⟨plan.column.name, plan.column.field, plan.column.nullable, .of plan.column.declaredType⟩

/-- Reads one column into its field. -/
structure Read where
  column : String
  field : String
  optional : Bool
  accessor : Accessor
  decoding : Decoding
  deriving DecidableEq, Inhabited

/-- The read of a planned column. -/
def Read.ofPlan (plan : ColumnPlan) : Read :=
  ⟨plan.column.name, plan.column.field, plan.column.nullable, plan.reader.accessor,
    .of plan.column.declaredType⟩

/-- A column as the adapter states it again. -/
structure ColumnTerm where
  name : String
  declaredType : DeclaredType
  /-- The field, where it is named differently. -/
  field? : Option String
  nullable : Bool
  deriving DecidableEq, Inhabited

/-- The statement of a column; its kind follows from its type. -/
def ColumnTerm.ofColumn (column : Column) : ColumnTerm :=
  ⟨column.name, column.declaredType,
    if column.field = column.name then none else some column.field, column.nullable⟩

/-- The column that a term makes. -/
def ColumnTerm.column (term : ColumnTerm) : Column :=
  let plain := Column.ofField term.name term.declaredType
  let named := match term.field? with
    | some field => plain.withField field
    | none => plain
  if term.nullable then named.makeNullable else named

/-- The adapter of one entity. -/
structure Code where
  /-- The type that the adapter is for, without its path. -/
  typeName : String
  identity : String
  /-- The columns, without the marker that building adds by itself. -/
  columns : List ColumnTerm
  /-- The parent's type as the source names it. -/
  parent? : Option String
  writes : List Write
  reads : List Read
  deriving DecidableEq, Inhabited

/-- What follows the last `:` or `.` of a path. -/
def lastSegment (path : String) : String :=
  String.ofList
    (path.toList.reverse.takeWhile fun c => !(c == ':' || c == '.')).reverse

namespace Code

/-- The adapter of a compiled schema. -/
def ofCompiled (compiled : Compiled) : Code where
  typeName := lastSegment compiled.schema.target
  identity := compiled.schema.identity
  columns := (compiled.schema.columns.filter fun column =>
    column.kind != .oneToManyChildMarker).map ColumnTerm.ofColumn
  parent? := compiled.schema.parent?
  writes := compiled.mapped.map Write.ofPlan
  reads := compiled.mapped.map Read.ofPlan

/-- The steps by which the adapter builds its schema again; `typePath` resolves the parent as the
source names it to the path of its type. -/
def steps (code : Code) (typePath : String → String) : List Schema.Step :=
  .identity code.identity :: code.columns.map (fun term => .column term.column) ++
    match code.parent? with
    | some parent => [.childOf (typePath parent)]
    | none => []

end Code

end EntityTables.Adapter
