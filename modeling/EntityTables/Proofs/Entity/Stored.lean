/-
# EntityTables.Proofs.Entity.Stored — the column value of a field, and the field of a column value

The writes and reads of an adapter are chosen by what a column declares. On the field that such a
column has they come to one function of the field's type, from a value to a column value, and one
back.

* `FieldType.store`, `FieldType.restore` — the two functions.
* `Write.value?_ofPlan`, `Read.value?_ofPlan` — the write and the read of a planned column are they.
-/
import EntityTables.Entity.Derived
import EntityTables.Proofs.Action

namespace EntityTables

set_option autoImplicit false

variable {objects : Objects}

namespace PlainType

/-- The column value of a value. -/
def store : (type : PlainType objects) → type.Carrier → Except Error Value
  | .integer _, i => .ok (.integer i.toStored)
  | .boolean, b => .ok (.integer (storedBool b))
  | .single, x => .ok (.ofSingle x)
  | .double, x => .ok (.real x)
  | .char, c => .ok (.ofChar c)
  | .text, s => .ok (.text s)
  | .dateTime, d => .ok (.integer d.toStored)
  | .bytes, content => .ok (.blob content)
  | .object key, a =>
    ((objects.codec key).serialize a).mapError Error.codec |>.map Value.blob

/-- The accessor that gives the column values of a type. -/
def accessor : PlainType objects → Accessor
  | .integer _ | .boolean | .dateTime => .integer
  | .single | .double => .real
  | .char | .text => .text
  | .bytes | .object _ => .bytes

/-- The storage class of the column values of a type. -/
def storage : PlainType objects → Storage
  | .integer _ | .boolean | .dateTime => .integer
  | .single | .double => .real
  | .char | .text => .text
  | .bytes | .object _ => .blob

/-- The value of what the accessor gave. -/
def ofAccessed (column : String) : (type : PlainType objects) → Value → Except Error type.Carrier
  | .integer type, .integer i => narrow type column i
  | .boolean, .integer i => .ok (boolOfStored i)
  | .single, .real x => .ok x.toSingle
  | .double, .real x => .ok x
  | .char, .text s => textToChar column s
  | .text, .text s => .ok s
  | .dateTime, .integer i => Instant.ofStored column i
  | .bytes, .blob content => .ok content
  | .object key, .blob content =>
    ((objects.codec key).deserialize content).mapError Error.codec
  | _, _ => .error (.configuration (.misfit column))

/-- The value of a column value. -/
def restore (column : String) (type : PlainType objects) (value : Value) :
    Except Error type.Carrier := do
  type.ofAccessed column (← type.accessor.ofValue column value)

end PlainType

/-! ## Encodings and decodings -/

namespace Adapter

/-- The encoding that a declared type asks for stores the values of the type. -/
theorem Encoding.value?_of {declared : DeclaredType} {type : PlainType objects}
    (fits : PlainType.ofDeclared? declared = some type) (a : type.Carrier) :
    (Encoding.of declared).value? type a = some (type.store a) := by
  cases declared with
  | float precision => cases precision <;> cases fits <;> rfl
  | object path =>
    obtain ⟨key, -, rfl⟩ := Option.map_eq_some_iff.mp fits
    rfl
  | oneToOne path => cases fits
  | oneToMany path => cases fits
  | unsupported path => cases fits
  | _ => cases fits; rfl

theorem narrow_int64 (column : String) (i : Int64) :
    narrow .int64 column i = .ok (.ofInt64 i) := by
  unfold narrow
  rw [dif_pos (IntType.holds_toInt i)]
  rfl

/-- An accessor gives values of one class. -/
theorem ofValue?_class {accessor : Accessor} {value given : Value}
    (accessed : accessor.ofValue? value = some given) :
    match accessor with
    | .integer => ∃ i, given = .integer i
    | .real => ∃ x, given = .real x
    | .text => ∃ s, given = .text s
    | .bytes => ∃ content, given = .blob content := by
  cases accessor <;> cases value <;> simp only [Accessor.ofValue?, reduceCtorEq] at accessed <;>
    cases accessed <;> exact ⟨_, rfl⟩

theorem ofValue?_of_ofValue {accessor : Accessor} {column : String} {value given : Value}
    (accessed : accessor.ofValue column value = .ok given) :
    accessor.ofValue? value = some given := by
  unfold Accessor.ofValue at accessed
  split at accessed
  · cases accessed
  · split at accessed
    · next found =>
      cases accessed
      exact found
    · cases accessed

/-- The decoding that a declared type asks for takes what the type's accessor gives. -/
theorem Decoding.field?_of {declared : DeclaredType} {type : PlainType objects}
    (fits : PlainType.ofDeclared? declared = some type) {value given : Value}
    (accessed : type.accessor.ofValue? value = some given) (column : String) :
    (Decoding.of declared).field? column type given = some (type.ofAccessed column given) := by
  have shape := ofValue?_class accessed
  cases declared with
  | integer width =>
    cases fits
    obtain ⟨i, rfl⟩ := shape
    cases width <;> first | rfl | exact congrArg some (narrow_int64 column i).symm
  | float precision =>
    cases precision <;> cases fits <;> obtain ⟨x, rfl⟩ := shape <;> rfl
  | object path =>
    obtain ⟨key, -, rfl⟩ := Option.map_eq_some_iff.mp fits
    obtain ⟨content, rfl⟩ := shape
    rfl
  | oneToOne path => cases fits
  | oneToMany path => cases fits
  | unsupported path => cases fits
  | _ =>
    cases fits
    obtain ⟨content, rfl⟩ := shape
    rfl

/-- The class and the accessor that a declared type is resolved to are those of its values. -/
theorem resolve?_of {declared : DeclaredType} {type : PlainType objects}
    (fits : PlainType.ofDeclared? declared = some type) :
    (declared.resolve?.map fun resolved => (resolved.1, resolved.2.accessor)) =
      some (type.storage, type.accessor) := by
  cases declared with
  | float precision => cases precision <;> cases fits <;> rfl
  | object path =>
    obtain ⟨key, -, rfl⟩ := Option.map_eq_some_iff.mp fits
    rfl
  | oneToOne path => cases fits
  | oneToMany path => cases fits
  | unsupported path => cases fits
  | _ => cases fits; rfl

end Adapter

/-! ## Fields of planned columns -/

namespace FieldType

/-- The column value of a field's value; a relation has none. -/
def store : (type : FieldType objects) → type.Carrier → Except Error Value
  | .plain type, a => type.store a
  | .optional _, none => .ok .null
  | .optional type, some a => type.store a
  | .relation declared, _ => .error (.configuration (.misfit declared.spelling))

/-- The field's value of a column value; a relation keeps what it starts with. -/
def restore (column : String) : (type : FieldType objects) → Value → Except Error type.Carrier
  | .plain type, value => type.restore column value
  | .optional type, value =>
    if value = .null then .ok none else (type.restore column value).map some
  | .relation declared, _ => .ok (objects.initialRelation declared)

/-- Whether a field's value is missing. -/
def isMissing : (type : FieldType objects) → type.Carrier → Bool
  | .optional _, none => true
  | _, _ => false

end FieldType

/-- The columns that are written and read are those that are no relation. -/
theorem ColumnPlan.isMapped_iff {plan : ColumnPlan} :
    plan.isMapped = true ↔ plan.column.kind.isRelation = false := by
  simp [isMapped]

/-- A column whose kind is the one that its declared type implies. -/
def Column.IsPlain (column : Column) : Prop := column.kind = .of column.declaredType

instance (column : Column) : Decidable column.IsPlain := inferInstanceAs (Decidable (_ = _))

/-- The field of a column that is no relation holds values of the column's declared type. -/
theorem FieldType.ofColumn?_mapped {column : Column} (plain : column.IsPlain)
    (mapped : column.kind.isRelation = false) {type : FieldType objects}
    (known : FieldType.ofColumn? column = some type) :
    ∃ held, PlainType.ofDeclared? column.declaredType = some held ∧
      (column.nullable = false ∧ type = .plain held ∨
        column.nullable = true ∧ type = .optional held) := by
  unfold Column.IsPlain at plain
  rw [plain] at mapped
  unfold FieldType.ofColumn? at known
  split at known
  · next declared => simp [declared, ColumnKind.of, ColumnKind.isRelation] at mapped
  · next declared => simp [declared, ColumnKind.of, ColumnKind.isRelation] at mapped
  · obtain ⟨held, found, same⟩ := Option.map_eq_some_iff.mp known
    refine ⟨held, found, ?_⟩
    cases nullable : column.nullable with
    | false => exact .inl ⟨rfl, by simpa [nullable] using same.symm⟩
    | true => exact .inr ⟨rfl, by simpa [nullable] using same.symm⟩

/-- The field of a column that is a relation holds the relation. -/
theorem FieldType.ofColumn?_relation {column : Column} (plain : column.IsPlain)
    (relational : column.kind.isRelation = true) {type : FieldType objects}
    (known : FieldType.ofColumn? column = some type) : ∃ declared, type = .relation declared := by
  unfold Column.IsPlain at plain
  rw [plain] at relational
  unfold FieldType.ofColumn? at known
  split at known
  · cases known
    exact ⟨_, rfl⟩
  · cases known
    exact ⟨_, rfl⟩
  · next single many =>
    cases declared : column.declaredType with
    | oneToOne path => exact absurd declared (single path)
    | oneToMany path => exact absurd declared (many path)
    | _ =>
      rw [declared] at relational
      cases relational

namespace Adapter

variable {plan : ColumnPlan} {type : FieldType objects}

/-- The write of a planned column stores the values of its field. -/
theorem Write.value?_ofPlan (plain : plan.column.IsPlain) (mapped : plan.isMapped = true)
    (known : FieldType.ofColumn? plan.column = some type) (a : type.Carrier) :
    (Write.ofPlan plan).value? type a = some (type.store a) := by
  obtain ⟨held, fits, ⟨nullable, rfl⟩ | ⟨nullable, rfl⟩⟩ :=
    FieldType.ofColumn?_mapped plain (ColumnPlan.isMapped_iff.mp mapped) known
  · simp [Write.value?, Write.ofPlan, nullable, Encoding.value?_of fits, FieldType.store]
  · cases a with
    | none => simp [Write.value?, Write.ofPlan, nullable, FieldType.store]
    | some a =>
      simp [Write.value?, Write.ofPlan, nullable, Encoding.value?_of fits, FieldType.store]

/-- The read of a planned column restores the values of its field. -/
theorem Read.value?_ofPlan (plain : plan.column.IsPlain) (mapped : plan.isMapped = true)
    (resolved : plan.column.declaredType.resolve? = some (plan.storage, plan.reader))
    (known : FieldType.ofColumn? plan.column = some type) {row : Row} {value : Value}
    (found : row.value plan.column.name = .ok value) :
    (Read.ofPlan plan).value? row type = some (type.restore plan.column.name value) := by
  obtain ⟨held, fits, kind⟩ :=
    FieldType.ofColumn?_mapped plain (ColumnPlan.isMapped_iff.mp mapped) known
  have accessor : plan.reader.accessor = held.accessor := by
    have same := resolve?_of fits
    rw [resolved] at same
    simpa using congrArg Prod.snd (Option.some.inj same)
  have access : held.accessor.read row plan.column.name =
      held.accessor.ofValue plan.column.name value := by
    unfold Accessor.read
    rw [found]
    rfl
  -- the accessor fails or gives a value of its class, which the decoding then takes
  have field? {given : Value} (accessed : held.accessor.ofValue plan.column.name value = .ok given) :=
    Decoding.field?_of fits (ofValue?_of_ofValue accessed) plan.column.name
  rcases kind with ⟨nullable, rfl⟩ | ⟨nullable, rfl⟩
  · simp only [Read.value?, Read.ofPlan, nullable, Bool.false_eq_true, if_false, accessor, access,
      FieldType.restore, PlainType.restore]
    cases accessed : held.accessor.ofValue plan.column.name value with
    | error fault => rfl
    | ok given => exact field? accessed
  · by_cases null : value = .null
    · have none : held.accessor.readOptional row plan.column.name = .ok none := by
        unfold Accessor.readOptional
        rw [found]
        simp [null, bind, Except.bind, pure, Except.pure]
      simp [Read.value?, Read.ofPlan, nullable, accessor, FieldType.restore, none, null]
    · have some : held.accessor.readOptional row plan.column.name =
          (held.accessor.ofValue plan.column.name value).map some := by
        unfold Accessor.readOptional
        rw [found]
        simp only [bind, Except.bind, null, if_false]
        cases held.accessor.ofValue plan.column.name value <;> rfl
      simp only [Read.value?, Read.ofPlan, nullable, accessor, FieldType.restore, some, null,
        if_true, if_false, PlainType.restore]
      cases accessed : held.accessor.ofValue plan.column.name value with
      | error fault => rfl
      | ok given =>
        simp only [Except.map]
        rw [field? accessed]
        rfl

end Adapter

end EntityTables
