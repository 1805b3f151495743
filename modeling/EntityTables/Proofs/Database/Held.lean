/-
# EntityTables.Proofs.Database.Held — what a table gives back of the values it was given

A column keeps a value of its own class as it is, but for numbers: what is no number is nothing, and
zero has no sign. So a row that was made of values is read back as these values, and records pass
through a table as long as all their numbers are some.

* `Value.held`, `keep_ofValue` — a value as its column keeps it.
* `Passage.table` — the way through a table.
* `readRow_entries` — the row that is read back.
-/
import EntityTables.Gateway.Connection
import EntityTables.Proofs.Database.Rows
import EntityTables.Proofs.Entity.Passage

namespace EntityTables

set_option autoImplicit false

open Sql

/-! ## Values in columns -/

/-- A value as a column of its own class keeps it. -/
def Value.held : Value → Value
  | .real x => if x.isNaN then .null else .real x.unsigned
  | v => v

/-- A real column keeps a number; an integral one is read back as the same number. -/
theorem Storage.keep_real (x : Double) :
    Storage.real.keep (.value (.real x)) = .value (.real x.unsigned) := by
  simp only [Storage.keep, integral, numeric, integerOfReal, Double.unsigned]
  cases integral : x.toInt? with
  | none => simp
  | some i =>
    by_cases range : IntType.int64.Holds i ∧ i ≠ IntType.int64.least
    · have back : (Int64.ofInt i).toInt = i := toInt_toStored (⟨i, range.1⟩ : IntType.int64.Range)
      simp only [if_pos range, back, Option.some.injEq]
      by_cases zero : i = 0
      · have plain : Double.ofInt 0 = ⟨0⟩ := by decide
        rw [if_pos zero, zero, plain]
      · rw [if_neg zero, Double.ofInt_of_toInt? integral zero]
    · have other : i ≠ 0 := by
        rintro rfl
        exact range (by decide)
      simp [range, other]

/-- A column of a value's own class keeps the value, up to the form of numbers. -/
theorem Storage.keep_ofValue {storage : Storage} {value : Value}
    (suits : value.isNull = true ∨ value.kind = storage.kind) :
    storage.keep (Cell.ofValue value) = .value value.held := by
  cases value with
  | null => exact Storage.keep_null storage
  | integer i => cases storage <;> simp [Value.isNull, Value.kind, Storage.kind] at suits; rfl
  | real x =>
    cases storage <;> simp [Value.isNull, Value.kind, Storage.kind] at suits
    cases number : x.isNaN with
    | true =>
      simp only [Cell.ofValue, Value.held, number, if_true]
      exact Storage.keep_null .real
    | false => simp [Cell.ofValue, Value.held, number, Storage.keep_real]
  | text s => cases storage <;> simp [Value.isNull, Value.kind, Storage.kind] at suits; rfl
  | blob bytes => cases storage <;> simp [Value.isNull, Value.kind, Storage.kind] at suits; rfl

/-- The way through a table, on which numbers count as the same if they are equal. -/
def Passage.table : Passage where
  carry := Value.held
  Takes x := x.isNaN = false
  SameSingle := Single.Equals
  SameDouble := Double.Equals
  carry_other v other := by
    cases v with
    | real x => exact absurd rfl (other x)
    | _ => rfl
  carry_single x number :=
    ⟨x.toDouble.unsigned, if_neg (by simp [number]),
      Single.equals_unsigned (Single.isNaN_toDouble x ▸ number)⟩
  carry_double x number := ⟨x.unsigned, if_neg (by simp [number]), Double.equals_unsigned number⟩

/-! ## Rows -/

/-- A row of values is read as it is. -/
theorem Connection.readRow_values (entries : List (String × Value)) :
    readRow (entries.map fun entry => (entry.1, .value entry.2)) = .ok ⟨entries⟩ := by
  have readable : (entries.map fun entry => (entry.1, Cell.value entry.2)).mapM readCell =
      .ok entries := by
    rw [mapM_eq_ok_iff, List.forall₂_map_left_iff, List.forall₂_same]
    exact fun _ _ => rfl
  unfold readRow
  rw [readable]
  rfl

namespace RowValues

variable {definition : TableDefinition} {values : RowValues}

/-- Every value that is there has the class of its column. -/
def Suits (definition : TableDefinition) (values : RowValues) : Prop :=
  ∀ column ∈ definition.columns, ∀ value, values.get? column.1 = some value →
    value.isNull = true ∨ value.kind = column.2.kind

/-- The value that a row made of some values gives for a column. -/
def heldAt (values : RowValues) (name : String) : Value := ((values.get? name).getD .null).held

/-- The row that is read where some values were written. -/
def readBack (definition : TableDefinition) (identity : Int64) (values : RowValues) : Row :=
  ⟨(definition.identity, .integer identity) ::
    definition.columnNames.map fun name => (name, values.heldAt name)⟩

theorem cells_of_suits (suits : values.Suits definition) :
    values.cells definition = definition.columnNames.map fun name => .value (values.heldAt name) := by
  unfold cells TableDefinition.columnNames heldAt
  rw [List.map_map]
  refine List.map_congr_left fun column member => ?_
  simp only [Function.comp_apply]
  cases given : values.get? column.1 with
  | none => exact Storage.keep_null column.2
  | some value => exact Storage.keep_ofValue (suits column member value given)

/-- A row that was made of values is read back as these. -/
theorem readRow_entries (suits : values.Suits definition) (identity : Int64) :
    Connection.readRow (Database.Table.entries definition
      ⟨identity, values.cells definition⟩) = .ok (values.readBack definition identity) := by
  have cells : Database.Table.entries definition ⟨identity, values.cells definition⟩ =
      (values.readBack definition identity).entries.map fun entry =>
        (entry.1, Cell.value entry.2) := by
    unfold Database.Table.entries readBack
    rw [cells_of_suits suits, ← List.map_prod_left_eq_zip, List.map_cons, List.map_map]
    rfl
  rw [cells]
  exact Connection.readRow_values _

/-- The value that is read back of a column. -/
theorem value_readBack (distinct : definition.Distinct) (identity : Int64) {name : String}
    (member : name ∈ definition.columnNames) :
    (values.readBack definition identity).value name = .ok (values.heldAt name) := by
  have names : ((values.readBack definition identity).entries.map Prod.fst).Nodup := by
    have whole : (definition.identity :: definition.columnNames).Nodup := distinct.of_map _
    simpa [readBack, Function.comp_def] using whole
  have among : (name, values.heldAt name) ∈ (values.readBack definition identity).entries :=
    .tail _ (List.mem_map.mpr ⟨name, member, rfl⟩)
  rw [Row.value, (findPair?_eq_some_iff names).mpr among]

/-- A value that was there is read back as its column keeps it. -/
theorem value_readBack_of_get? (distinct : definition.Distinct) (identity : Int64) {name : String}
    (member : name ∈ definition.columnNames) {value : Value}
    (given : values.get? name = some value) :
    (values.readBack definition identity).value name = .ok value.held := by
  rw [value_readBack distinct identity member, heldAt, given, Option.getD_some]

/-- The identity that is read back. -/
theorem value_readBack_identity (identity : Int64) :
    (values.readBack definition identity).value definition.identity = .ok (.integer identity) := by
  simp [Row.value, readBack, findPair?]

end RowValues

end EntityTables
