/-
# EntityTables.Proofs.Dispatcher.Readback — which records can be read once they are written

A record whose addition succeeds is not always one that can be found again: a column holds nothing
in place of what is no number, no date has the milliseconds of the very last leap second, and an
object's codec may write what it does not read. These are the only cases.

* `Record.Readable` — none of these cases; `restore_held_iff` — for one column.
* `Record.SameMissing` — each field is missing exactly if it was.
* `findById_insert` — a record is found again exactly if it is readable.
-/
import EntityTables.Codec.JsonBody
import EntityTables.Proofs.Dispatcher.Operations

namespace EntityTables

set_option autoImplicit false

open Sql Database

variable {objects : Objects}

/-! ## One column -/

namespace PlainType

/-- A value whose column can be read again. -/
def Readable : (type : PlainType objects) → type.Carrier → Prop
  | .single, x => x.isNaN = false
  | .double, x => x.isNaN = false
  | .dateTime, d => d.millis ≤ Instant.lastMillis
  | .object key, a => ∀ bytes, (objects.codec key).serialize a = .ok bytes →
      ∃ b, (objects.codec key).deserialize bytes = .ok b
  | _, _ => True

variable {type : PlainType objects} {a : type.Carrier} {value : Value}

theorem restore_null (type : PlainType objects) (column : String) :
    type.restore column .null = .error (.decode column .unexpectedNull) := by
  unfold restore Accessor.ofValue
  rfl

/-- What was stored can be restored from its column exactly if it is readable. -/
theorem restore_held_iff (stored : type.store a = .ok value) (column : String) :
    (∃ b, type.restore column value.held = .ok b) ↔ type.Readable a := by
  cases type with
  | single =>
    cases stored
    have same : a.toDouble.isNaN = a.isNaN := Single.isNaN_toDouble a
    show _ ↔ a.isNaN = false
    cases number : a.isNaN with
    | true =>
      rw [Value.ofSingle, Value.held, if_pos (same.trans number), restore_null]
      simp
    | false =>
      rw [Value.ofSingle, Value.held, if_neg (by simp [same, number])]
      exact ⟨fun _ => rfl, fun _ => ⟨_, rfl⟩⟩
  | double =>
    cases stored
    show _ ↔ a.isNaN = false
    cases number : a.isNaN with
    | true =>
      rw [Value.held, if_pos number, restore_null]
      simp
    | false =>
      rw [Value.held, if_neg (by simp [number])]
      exact ⟨fun _ => rfl, fun _ => ⟨_, rfl⟩⟩
  | dateTime =>
    cases stored
    exact Instant.exists_ofStored_iff a column
  | object key =>
    unfold store at stored
    cases written : (objects.codec key).serialize a with
    | error fault => simp [written, Except.mapError, Except.map] at stored
    | ok bytes =>
      simp only [written, Except.mapError, Except.map, Except.ok.injEq] at stored
      subst stored
      have back : (PlainType.object key).restore column (Value.blob bytes).held =
          ((objects.codec key).deserialize bytes).mapError Error.codec := rfl
      simp only [Readable, written, Except.ok.injEq, forall_eq', back]
      cases (objects.codec key).deserialize bytes <;> simp [Except.mapError]
  | _ =>
    have storable : @PlainType.Storable objects Passage.table _ a := trivial
    obtain ⟨b, restored, -⟩ := restore_carried storable stored column
    exact ⟨fun _ => trivial, fun _ => ⟨b, restored⟩⟩

/-- What is restored from its column is no longer missing. -/
theorem held_ne_null {b : type.Carrier} {column : String}
    (restored : type.restore column value = .ok b) : value ≠ .null := by
  rintro rfl
  rw [restore_null] at restored
  cases restored

end PlainType

namespace FieldType

variable {type : FieldType objects} {a : type.Carrier} {value : Value}

/-- A field's value whose column can be read again. -/
def Readable : (type : FieldType objects) → type.Carrier → Prop
  | .plain type, a => type.Readable a
  | .optional type, a => ∀ given ∈ a, type.Readable given
  | .relation _, _ => True

/-- What was stored can be restored from its column, and is missing exactly if it was, exactly if it
is readable. -/
theorem restore_held_iff (stored : type.store a = .ok value) (column : String) :
    (∃ b, type.restore column value.held = .ok b ∧ type.isMissing b = type.isMissing a) ↔
      type.Readable a := by
  cases type with
  | plain type =>
    rw [show (plain type).Readable a ↔ type.Readable a from Iff.rfl,
      ← PlainType.restore_held_iff stored column]
    constructor
    · rintro ⟨b, restored, -⟩
      exact ⟨b, restored⟩
    · rintro ⟨b, restored⟩
      exact ⟨b, restored, rfl⟩
  | optional type =>
    cases a with
    | none =>
      cases stored
      exact ⟨fun _ _ member => (nomatch member), fun _ => ⟨none, rfl, rfl⟩⟩
    | some a =>
      have single : (optional type).Readable (some a) ↔ type.Readable a := by simp [Readable]
      rw [single, ← PlainType.restore_held_iff stored column]
      constructor
      · rintro ⟨b, restored, same⟩
        simp only [restore] at restored
        split at restored
        · cases restored
          cases same
        · cases found : type.restore column value.held with
          | error fault =>
            rw [found] at restored
            cases restored
          | ok b => exact ⟨b, rfl⟩
      · rintro ⟨b, restored⟩
        refine ⟨some b, ?_, rfl⟩
        simp only [restore, PlainType.held_ne_null restored, if_false, restored]
        rfl
  | relation declared => cases stored

end FieldType

/-! ## One row -/

namespace EntityType

variable {entity : EntityType objects} {compiled : Compiled} {row : Row}

/-- Where all reads succeed, each of them does, whatever was read before it. -/
theorem run_of_readFields {layout : Layout objects} {reads : List Adapter.Read}
    {current final : Fields layout} (all : readFields row current reads = (final, .ok ()))
    {read : Adapter.Read} (member : read ∈ reads) :
    ∃ before later : Fields layout, read.run row before = .ok later := by
  induction reads generalizing current with
  | nil => cases member
  | cons first rest ih =>
    rw [readFields] at all
    cases ran : first.run row current with
    | error fault => simp [ran] at all
    | ok changed =>
      simp only [ran] at all
      rcases List.mem_cons.mp member with rfl | behind
      · exact ⟨current, changed, ran⟩
      · exact ih all behind

/-- Where a record can be made of a row, each of its columns can be restored. -/
theorem IsFor.restored_of_decode (made : entity.IsFor compiled.schema compiled)
    {record : entity.Record} (decoded : entity.decode row = .ok record) {plan : ColumnPlan}
    (member : plan ∈ compiled.mapped) {type : FieldType objects}
    (known : FieldType.ofColumn? plan.column = some type) {value : Value}
    (given : row.value plan.column.name = .ok value) :
    ∃ b, type.restore plan.column.name value = .ok b := by
  obtain ⟨final, all⟩ : ∃ final, readFields row entity.initial entity.code.reads =
      (final, .ok ()) := by
    unfold decode mapRow at decoded
    cases identified : entity.readIdentity row with
    | error fault => simp [identified] at decoded
    | ok identity =>
      rcases ran : readFields row entity.initial entity.code.reads with ⟨final, fault | done⟩
      · simp [identified, blank, ran] at decoded
      · exact ⟨final, rfl⟩
  have among : Adapter.Read.ofPlan plan ∈ entity.code.reads := by
    rw [made.reads_eq]
    exact List.mem_map_of_mem member
  obtain ⟨before, later, ran⟩ := run_of_readFields all among
  obtain ⟨declared, kept, mapped, resolved⟩ := made.mapped_spec member
  have replaced : Fields.replace? (Adapter.Read.ofPlan plan).field
      ((Adapter.Read.ofPlan plan).value? row) entity.layout before = some (.ok later) := by
    unfold Adapter.Read.run at ran
    cases replaced : Fields.replace? (Adapter.Read.ofPlan plan).field
        ((Adapter.Read.ofPlan plan).value? row) entity.layout before with
    | none => simp [replaced] at ran
    | some outcome =>
      simp only [replaced] at ran
      rw [ran]
  obtain ⟨other, a, b, found, read⟩ := Fields.field?_of_replace? replaced
  obtain ⟨kind, c, same, ofKind⟩ := made.field_spec member before
  cases found.symm.trans same
  cases known.symm.trans ofKind
  rw [Adapter.Read.value?_ofPlan (made.plain _ declared kept) mapped resolved known given] at read
  exact ⟨b, Option.some.inj read⟩

end EntityType

namespace EntityType.Record

variable {entity : EntityType objects}

/-- The column of every field can be read again. -/
def Readable (record : entity.Record) : Prop :=
  Fields.Related (fun _ type a _ => type.Readable a) entity.layout record.fields record.fields

/-- Each field of a record is missing exactly if that of another is. -/
def SameMissing (record other : entity.Record) : Prop :=
  Fields.Related (fun _ type a b => type.isMissing b = type.isMissing a) entity.layout
    record.fields other.fields

end EntityType.Record

namespace EntityType.IsFor

variable {entity : EntityType objects} {compiled : Compiled} {definition : TableDefinition}
  {record : entity.Record} {values : RowValues}

/-- What a record was written as can be made a record again, with the same fields missing, exactly
if the record is readable. -/
theorem decode_readBack_iff (made : entity.IsFor compiled.schema compiled)
    (defined : definition = compiled.schema.tableOf compiled.plans)
    (distinct : definition.Distinct) (encoded : entity.encode record = .ok values)
    (identity : Int64) :
    (∃ found, entity.decode (values.readBack definition identity) = .ok found ∧
      record.SameMissing found) ↔ record.Readable := by
  let row := values.readBack definition identity
  have named : row.value compiled.schema.identity = .ok (.integer identity) := by
    have same : definition.identity = compiled.schema.identity := by rw [defined]; rfl
    rw [← same]
    exact RowValues.value_readBack_identity identity
  -- each mapped column holds what its field was stored as
  have columns : ∀ plan ∈ compiled.mapped, ∀ type a,
      FieldType.ofColumn? plan.column = some type →
      Fields.field? plan.column.field entity.layout record.fields = some ⟨type, a⟩ →
      ∃ value, type.store a = .ok value ∧ row.value plan.column.name = .ok value.held := by
    intro plan member type a known found
    obtain ⟨value, among, stored⟩ := made.entry_of_encode encoded member found
    have kept : plan.column.name ∈ definition.columnNames := by
      rw [defined]
      exact mem_table_of_mapped member
    have given := RowValues.get?_eq_some_iff.mpr among
    exact ⟨value, stored, RowValues.value_readBack_of_get? distinct identity kept given⟩
  constructor
  · rintro ⟨found, decoded, missing⟩
    -- all reads succeed, so each value was restored to what its field is now
    let Restored (type : FieldType objects) (a b : type.Carrier) : Prop :=
      (∃ declared, type = .relation declared) ∨ ∃ column value, type.store a = .ok value ∧
        type.restore column value.held = .ok b
    have restores : ∀ plan ∈ compiled.mapped,
        Restores entity Restored row record.fields plan := by
      intro plan member type a known here
      obtain ⟨value, stored, given⟩ := columns plan member type a known here
      obtain ⟨b, restored⟩ := made.restored_of_decode decoded member known given
      exact ⟨value.held, b, given, restored, .inr ⟨_, value, stored, restored⟩⟩
    obtain ⟨again, read, -, each⟩ :=
      made.decode_spec named restores fun declared _ => .inl ⟨declared, rfl⟩
    cases decoded.symm.trans read
    refine (Fields.Related.and each missing).left ?_
    rintro name type a b ⟨⟨declared, rfl⟩ | ⟨column, value, stored, restored⟩, same⟩
    · trivial
    · exact (FieldType.restore_held_iff stored column).mp ⟨b, restored, same⟩
  · intro readable
    have restores : ∀ plan ∈ compiled.mapped, Restores entity
        (fun type a b => type.isMissing b = type.isMissing a) row record.fields plan := by
      intro plan member type a known here
      obtain ⟨value, stored, given⟩ := columns plan member type a known here
      obtain ⟨-, -, holds⟩ := Fields.Related.field? readable here
      obtain ⟨b, restored, same⟩ :=
        (FieldType.restore_held_iff stored plan.column.name).mpr holds
      exact ⟨value.held, b, given, restored, same⟩
    obtain ⟨found, read, -, missing⟩ := made.decode_spec named restores fun _ _ => rfl
    exact ⟨found, read, missing⟩

end EntityType.IsFor

/-! ## One record -/

namespace Dispatcher

variable {entity : EntityType objects} {compiled : Compiled} {table : Table}
  {session after : Session Connection}

/-- A row behind all others is the only one with its identity. -/
theorem matching_withRow {identity : Int64} (fresh : table.freshIdentity = .ok identity)
    (values : RowValues) :
    (table.withRow identity values).matching (some (Table.hasIdentity identity)) =
      [⟨identity, values.cells table.definition⟩] := by
  have others : ∀ row ∈ table.rows, row.identity ≠ identity :=
    fun row member => Int64.ne_of_lt ((Table.lt_of_freshIdentity fresh).2 row member)
  rw [Table.matching_hasIdentity]
  show (table.rows ++ [_]).filter _ = _
  rw [List.filter_append, List.filter_eq_nil_iff.mpr (by simpa using others)]
  simp

/-- A record that was added is found again under its identity, with the same fields missing, exactly
if it is readable. -/
theorem findById_insert (ready : Ready entity compiled table session) {record : entity.Record}
    {identity : Int64} (inserted : insert entity record session = (.ok identity, after)) :
    (∃ found last, findById entity identity after = (.ok (some found), last) ∧
      record.SameMissing found) ↔ record.Readable := by
  cases encoded : entity.encode record with
  | error fault =>
    rw [insert_refused ready encoded] at inserted
    cases inserted
  | ok values =>
    have fits : values.Fits table.definition := ready.defined ▸ ready.made.fits_of_encode encoded
    have ran := insertValues_run ready fits
    rw [insert_eq ready encoded] at inserted
    cases fresh : table.freshIdentity with
    | error fault =>
      rw [fresh] at ran
      obtain ⟨_, failed, -⟩ := ran
      rw [inserted] at failed
      cases failed
    | ok given =>
      rw [fresh] at ran
      obtain ⟨_, done, moves⟩ := ran
      rw [inserted] at done
      cases done
      have single := matching_withRow fresh values
      have suits : values.Suits table.definition := ready.defined ▸ ready.made.suits_of_encode encoded
      have ascending : ((table.withRow identity values).matching
          (some (Table.hasIdentity identity))).Pairwise fun a b => a.identity < b.identity := by
        rw [single]
        exact List.pairwise_singleton _ _
      have whole : ∀ row ∈ (table.withRow identity values).matching
          (some (Table.hasIdentity identity)),
          row.cells.length = table.definition.columns.length := by
        rw [single]
        intro row member
        obtain rfl := List.mem_singleton.mp member
        exact RowValues.length_cells table.definition values
      obtain ⟨last, searched, -⟩ := findById_run (ready.moves moves) identity ascending whole
      have read : findById entity identity after =
          (some <$> entity.decode (values.readBack table.definition identity), last) := by
        rw [searched, recordsOf, single]
        have row : ([⟨identity, values.cells table.definition⟩].map
            (Table.entries table.definition)).mapM Connection.readRow =
              .ok [values.readBack table.definition identity] := by
          rw [List.map_singleton, List.mapM_cons, RowValues.readRow_entries suits]
          rfl
        rw [show (table.withRow identity values).definition = table.definition from rfl, row]
        simp only [bind, Except.bind, List.mapM_cons, List.mapM_nil]
        cases entity.decode (values.readBack table.definition identity) <;> rfl
      rw [read, ← ready.made.decode_readBack_iff ready.defined ready.holds.distinct encoded identity]
      constructor
      · rintro ⟨found, _, same, missing⟩
        obtain ⟨other, decoded, wrapped⟩ := map_eq_ok_iff.mp (Prod.ext_iff.mp same).1
        cases wrapped
        exact ⟨found, decoded, missing⟩
      · rintro ⟨found, decoded, missing⟩
        exact ⟨found, last, by rw [decoded]; rfl, missing⟩

/-- A number that is none is written, and then it is missing. -/
theorem findById_insert_nan :
    ∃ (entity : EntityType Objects.none) (record : entity.Record)
      (session after : Session Connection), insert entity record session = (.ok 1, after) ∧
        ¬ ∃ found last, findById entity 1 after = (.ok (some found), last) ∧
          record.SameMissing found := by
  let level := (Column.ofField "level" (.float .double)).makeNullable
  let schema := Schema.draft "Sample" [.column level]
  let plans : List ColumnPlan := [⟨level, .real, .real⟩]
  let compiled : Compiled := ⟨schema, schema.definition plans, plans⟩
  let layout : Layout Objects.none := [("level", .optional .double)]
  let entity : EntityType Objects.none :=
    { path := "lab::Sample", code := .ofCompiled compiled, parentPath? := none, layout,
      initial := Fields.initial layout }
  let record : entity.Record := ⟨0, (some ⟨0x7ff8000000000000⟩, ())⟩
  let values : RowValues := ⟨[("level", .real ⟨0x7ff8000000000000⟩)], by decide⟩
  let table : Table := .empty (compiled.schema.tableOf compiled.plans)
  let session : Session Connection :=
    { registry := ⟨[entity.toMapping], [⟨0, entity.toMapping, compiled⟩]⟩
      storage := { Connection.empty with database := ⟨[table]⟩ } }
  have compiles : schema.compile = .ok compiled :=
    Schema.compile_eq_ok_iff.mpr ⟨by decide, by decide, rfl, rfl⟩
  have plain : ∀ column ∈ schema.columns, column.hasField = true → column.IsPlain := by
    intro column member _
    obtain rfl := List.mem_singleton.mp member
    exact (Column.isPlain_ofField "level" (.float .double)).makeNullable
  have made := EntityType.isFor_of_ofCompiled? compiles plain (by decide)
    (show EntityType.ofCompiled? compiled "lab::Sample" none = some entity from rfl)
  have known : session.registry.Knows entity.toMapping compiled := ⟨_, rfl, rfl, rfl⟩
  have free : table.definition.NulFree := by decide
  have distinct : table.definition.Distinct := by decide
  have created : Database.empty.create "Sample" table.definition = .ok session.storage.database :=
    create_eq_ok_iff.mpr ⟨by decide, rfl, distinct, rfl⟩
  have ready : Ready entity compiled table session :=
    ⟨known, made, (holds_create free created).1, rfl⟩
  have encoded : entity.encode record = .ok values := rfl
  have fits : values.Fits table.definition := ready.made.fits_of_encode encoded
  obtain ⟨after, inserted, -⟩ := insertValues_run ready fits
  rw [← insert_eq ready encoded] at inserted
  have inserted : insert entity record session = (.ok 1, after) := inserted
  refine ⟨entity, record, session, after, inserted, ?_⟩
  intro unchanged
  have readable : record.Readable := (findById_insert ready inserted).mp unchanged
  have number : (⟨0x7ff8000000000000⟩ : Double).isNaN = false := readable.1 _ rfl
  revert number
  decide

end Dispatcher

/-- Nor is a list of such numbers read as it is written. -/
example : let type : JsonType := .vector .double
    type.codec.serialize [⟨0x7ff8000000000000⟩] =
        .ok [0xb7, 1, 0x5b, 0x6e, 0x75, 0x6c, 0x6c, 0x5d] ∧
      type.codec.deserialize [0xb7, 1, 0x5b, 0x6e, 0x75, 0x6c, 0x6c, 0x5d] =
        .error .badJson := ⟨rfl, rfl⟩

end EntityTables
