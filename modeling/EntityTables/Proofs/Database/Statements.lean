/-
# EntityTables.Proofs.Database.Statements — statements with values, carried out

A statement with placeholders and as many values comes down to one operation of the table that it
names. A database keeps every table that a statement does not name.

* `Database.Holds` — a database has a table; `Holds.withTable`, `table_withTable_other`.
* `Predicate.Asks` — what a predicate asks of the rows of a table.
* `run_insert`, `run_update`, `run_delete`, `run_select` — the statements of row operations.
-/
import EntityTables.Proofs.Database.Rows
import EntityTables.Proofs.Sql.Statements

namespace EntityTables

set_option autoImplicit false

open Sql

namespace Database

variable {database : Database} {table changed : Table} {values : RowValues}

/-- A database has a table, of which SQL text can name every part. -/
structure Holds (database : Database) (table : Table) : Prop where
  found : database.table table.definition.name = .ok table
  free : table.definition.NulFree
  distinct : table.definition.Distinct

theorem table_eq_ok_iff {name : String} :
    database.table name = .ok table ↔ database.tables.find? (Table.isNamed name) = some table := by
  unfold Database.table
  cases database.tables.find? (Table.isNamed name) <;> simp

/-- Whether a table has a name does not change when it is replaced by one of its own name. -/
theorem isNamed_replaced {name other : String} (same : sameName changed.definition.name name = true)
    (table : Table) :
    (if table.isNamed name then changed else table).isNamed other = table.isNamed other := by
  split
  · next named =>
    have first := TableDefinition.sameName_iff.mp same
    have second := TableDefinition.sameName_iff.mp named
    simp [Table.isNamed, sameName, first, second]
  · rfl

theorem find?_withTable {name other : String} (same : sameName changed.definition.name name = true) :
    (database.withTable name changed).tables.find? (Table.isNamed other) =
      (database.tables.find? (Table.isNamed other)).map fun table =>
        if table.isNamed name then changed else table := by
  unfold withTable
  rw [List.find?_map]
  congr 2
  funext table
  exact isNamed_replaced same table

/-- A table in place of one with the same columns is there under its name. -/
theorem Holds.withTable (holds : database.Holds table)
    (same : changed.definition = table.definition) :
    (database.withTable table.definition.name changed).Holds changed := by
  refine ⟨?_, same ▸ holds.free, same ▸ holds.distinct⟩
  have itself : sameName changed.definition.name table.definition.name = true := by
    rw [same]
    exact Reading.sameName_self _
  rw [same, table_eq_ok_iff, find?_withTable itself, table_eq_ok_iff.mp holds.found,
    Option.map_some]
  exact congrArg some (if_pos (Reading.sameName_self table.definition.name))

/-- A table of another name stays as it is. -/
theorem table_withTable_other {name other : String}
    (same : sameName changed.definition.name name = true) (apart : sameName name other = false) :
    (database.withTable name changed).table other = database.table other := by
  unfold Database.table
  rw [find?_withTable same]
  cases found : database.tables.find? (Table.isNamed other) with
  | none => rfl
  | some table =>
    have same : Table.isNamed other table = true := List.find?_some found
    have named := TableDefinition.sameName_iff.mp same
    have kept : table.isNamed name = false := by
      refine Bool.eq_false_iff.mpr fun both => ?_
      have first := TableDefinition.sameName_iff.mp both
      rw [TableDefinition.sameName_iff.mpr (first.symm.trans named)] at apart
      cases apart
    simp [kept]

/-! ## Places of names -/

theorem column_eq_ok {name : String} {place : Place}
    (found : table.definition.place? name = some place) : table.column name = .ok place := by
  unfold Table.column
  rw [found]

theorem place_eq_ok {name : String} {place : Place}
    (found : table.definition.place? name = some place) :
    table.place (columnNameOf name) = .ok place := by
  unfold Table.place
  split
  · simp only [columnNameOf, found, Option.getD_some]
  · exact column_eq_ok found

theorem newPlace_eq_ok {named name : String} {place : Place}
    (found : table.definition.place? name = some place) :
    table.newPlace named name = .ok place := by
  unfold Table.newPlace
  rw [found]

theorem mapM_bound (find : String → Except Fault Place) (fits : values.Fits table.definition)
    (found : ∀ name ∈ table.definition.columnNames,
      find name = .ok (table.definition.stored name)) :
    (values.bound.mapM fun (column, cell) => do return (← find column, cell)) =
      .ok (values.placed table.definition) := by
  unfold RowValues.bound RowValues.placed
  rw [mapM_eq_ok_iff, List.forall₂_map_left_iff, List.forall₂_map_right_iff, List.forall₂_same]
  intro entry member
  simp [found entry.1 (fits entry.1 (List.mem_map_of_mem member)), Functor.map, Except.map]

/-- All columns by name are all columns, the identity first. -/
theorem selection_names (distinct : table.definition.Distinct) :
    table.selection ((table.definition.identity :: table.definition.columnNames).map columnNameOf) =
      .ok table.definition.places := by
  have stored : table.definition.columnNames.map table.definition.stored =
      (List.range table.definition.columns.length).map Place.stored := by
    refine List.ext_getElem (by simp [TableDefinition.columnNames]) fun index within _ => ?_
    have inside : index < table.definition.columnNames.length := by simpa using within
    simp [TableDefinition.stored, distinct.names_nodup.idxOf_getElem index inside]
  unfold Table.selection TableDefinition.places
  rw [← stored]
  simp only [List.map_cons, List.isEmpty_cons, Bool.false_eq_true, if_false]
  rw [mapM_eq_ok_iff, List.forall₂_cons, List.forall₂_map_left_iff, List.forall₂_map_right_iff,
    List.forall₂_same]
  exact ⟨place_eq_ok (TableDefinition.place?_identity _),
    fun name member => place_eq_ok (TableDefinition.place?_stored distinct member)⟩

end Database

/-! ## Placeholders -/

namespace Sql.Statement

variable {values : RowValues}

theorem replaceValues_placeholders (pairs : List (String × Cell)) (rest : List Cell) :
    (replaceValues takeCell (pairs.map fun pair => (pair.1, Operand.placeholder))).run
      (pairs.map Prod.snd ++ rest) = (pairs, rest) := by
  induction pairs with
  | nil => rfl
  | cons pair others ih =>
    unfold replaceValues at ih ⊢
    rw [List.map_cons, List.mapM_cons]
    exact congrArg (fun made : List (String × Cell) × List Cell => (pair :: made.1, made.2)) ih

/-- Bound to as many values, the placeholders of an insertion are these. -/
theorem bind_insert (table : String) (values : RowValues) :
    (insert table (values.columns.map fun name => (name, Operand.placeholder))).bind
      (values.values.map Cell.ofValue) = insert table values.bound := by
  have taken := replaceValues_placeholders values.bound []
  simp only [RowValues.bound, List.map_map, List.append_nil] at taken
  simp only [RowValues.columns, RowValues.values, List.map_map]
  exact congrArg (fun made : List (String × Cell) × List Cell => insert table made.1) taken

/-- Bound to as many values and those of its condition, the placeholders of a change are these. -/
theorem bind_update (table : String) (values : RowValues)
    (condition? : Option (Condition ColumnName Operand)) (args : List Value) :
    (update table (values.columns.map fun name => (name, Operand.placeholder)) condition?).bind
        ((values.values ++ args).map Cell.ofValue) =
      update table values.bound
        ((replaceCondition takeCell condition?).run (args.map Cell.ofValue)).1 := by
  have taken := replaceValues_placeholders values.bound (args.map Cell.ofValue)
  simp only [RowValues.bound, List.map_map] at taken
  simp only [RowValues.columns, RowValues.values, List.map_map, List.map_append]
  exact congrArg (fun made : List (String × Cell) × List Cell =>
    update table made.1 ((replaceCondition takeCell condition?).run made.2).1) taken

theorem placeholders_update (table : String) (values : RowValues)
    (condition? : Option (Condition ColumnName Operand)) :
    (update table (values.columns.map fun name => (name, Operand.placeholder))
        condition?).placeholders =
      values.values.length +
        (conditionOperands condition?).countP fun operand => operand = .placeholder := by
  simp [placeholders, operands, RowValues.columns, RowValues.values, Function.comp_def,
    List.countP_eq_length.mpr]

theorem placeholders_insert (table : String) (values : RowValues) :
    (insert table (values.columns.map fun name => (name, Operand.placeholder))).placeholders =
      values.values.length := by
  simp [placeholders, operands, RowValues.columns, RowValues.values, Function.comp_def,
    List.countP_eq_length.mpr]

end Sql.Statement

namespace Database

/-- A condition with placeholders, given some values, is a condition on a table. -/
structure Binds (table : Table) (condition? : Option (Condition ColumnName Operand))
    (args : List Value) (placed? : Option (Condition Place Cell)) : Prop where
  counted : (Statement.conditionOperands condition?).countP (fun operand =>
    operand = .placeholder) = args.length
  placed : table.condition ((Statement.replaceCondition Statement.takeCell condition?).run
    (args.map Cell.ofValue)).1 = .ok placed?

theorem binds_none (table : Table) : Binds table none [] none := ⟨rfl, rfl⟩

/-- A column that equals a placeholder. -/
theorem binds_equal {table : Table} {column : String} {place : Place}
    (found : table.definition.place? column = some place) (value : Value) :
    Binds table (some (.compare (columnNameOf column) .equal .placeholder)) [value]
      (some (.compare place .equal (Cell.ofValue value))) := by
  refine ⟨rfl, ?_⟩
  have bound : ((Statement.replaceCondition Statement.takeCell
      (some (.compare (columnNameOf column) .equal .placeholder))).run
        ([value].map Cell.ofValue)).1 =
      some (.compare (columnNameOf column) .equal (Cell.ofValue value)) := rfl
  rw [bound]
  simp only [Table.condition, Condition.replace, place_eq_ok found]
  rfl

end Database

/-! ## Statements -/

/-- What a predicate asks of the rows of a table: nothing, or that a column has a value. -/
inductive Predicate.Asks (definition : TableDefinition) :
    Predicate → Option (Condition Database.Place Cell) → Prop where
  | all : Asks definition .all none
  | equals {column : String} {place : Database.Place} (value : Value)
      (free : '\x00' ∉ column.toList) (found : definition.place? column = some place) :
      Asks definition (.columnEquals column value)
        (some (.compare place .equal (Cell.ofValue value)))

/-- What a predicate asks is what its clause says. -/
theorem Predicate.Asks.means {table : Database.Table} {predicate : Predicate}
    {placed? : Option (Condition Database.Place Cell)}
    (asks : predicate.Asks table.definition placed?) :
    ∃ ts condition?, predicate.Means ts condition? ∧
      Database.Binds table condition? predicate.args placed? := by
  cases asks with
  | all => exact ⟨[], none, .all, Database.binds_none table⟩
  | equals value free found =>
    exact ⟨_, _, means_columnEquals free value, Database.binds_equal found value⟩

namespace Database

variable {database : Database} {table : Table} {values : RowValues}
  {condition? : Option (Condition ColumnName Operand)} {args : List Value}
  {placed? : Option (Condition Place Cell)}

theorem run_insert (holds : database.Holds table) (fits : values.Fits table.definition) :
    database.run (.insert table.definition.name
        (values.columns.map fun name => (name, .placeholder))) values.values =
      table.freshIdentity.map fun identity =>
        (.inserted identity,
          database.withTable table.definition.name (table.withRow identity values)) := by
  have counted : countValues values.values.length values.values.length = .ok () := if_pos rfl
  have placed := mapM_bound (table.newPlace table.definition.name) fits
    fun name member => newPlace_eq_ok (TableDefinition.place?_stored holds.distinct member)
  unfold run
  rw [Statement.bind_insert, Statement.placeholders_insert, counted, carryOut, holds.found]
  simp only [bind, Except.bind] at placed ⊢
  rw [placed]
  simp only [Table.insert_placed holds.distinct fits]
  cases table.freshIdentity <;> rfl

theorem run_update (holds : database.Holds table) (fits : values.Fits table.definition)
    (binds : Binds table condition? args placed?) :
    database.run (.update table.definition.name
        (values.columns.map fun name => (name, .placeholder)) condition?) (values.values ++ args) =
      (table.update (values.placed table.definition) placed?).map fun made =>
        (.changed made.1, database.withTable table.definition.name made.2) := by
  have counted : countValues (values.values ++ args).length (values.values.length + args.length) =
      .ok () := if_pos List.length_append
  have placed := mapM_bound table.column fits
    fun name member => column_eq_ok (TableDefinition.place?_stored holds.distinct member)
  unfold run
  rw [Statement.bind_update, Statement.placeholders_update, binds.counted, counted, carryOut,
    holds.found]
  simp only [bind, Except.bind] at placed ⊢
  rw [placed]
  simp only [binds.placed]
  cases table.update (values.placed table.definition) placed? <;> rfl

theorem run_delete (holds : database.Holds table) (binds : Binds table condition? args placed?) :
    database.run (.delete table.definition.name condition?) args =
      .ok (.changed (table.delete placed?).1,
        database.withTable table.definition.name (table.delete placed?).2) := by
  have counted : countValues args.length
      (Statement.placeholders (.delete table.definition.name condition?)) = .ok () :=
    if_pos binds.counted.symm
  have bound : (Statement.delete table.definition.name condition?).bind (args.map Cell.ofValue) =
      .delete table.definition.name ((Statement.replaceCondition Statement.takeCell
        condition?).run (args.map Cell.ofValue)).1 := rfl
  unfold run
  rw [bound, counted, carryOut, holds.found]
  simp only [bind, Except.bind, binds.placed]
  rfl

/-- The places of an order by the identity, or of none. -/
theorem order_identity (table : Table) {order? : Option String}
    (byIdentity : ∀ column ∈ order?, column = table.definition.identity) :
    ∃ order, table.order (orderKeys order?) = .ok order ∧
      (order = [] ∨ order = [⟨.identity, false⟩]) := by
  cases order? with
  | none => exact ⟨[], rfl, .inl rfl⟩
  | some column =>
    obtain rfl := byIdentity column rfl
    have placed := place_eq_ok (TableDefinition.place?_identity table.definition)
    refine ⟨_, ?_, .inr rfl⟩
    simp [Table.order, orderKeys, placed, bind, Except.bind, pure, Except.pure]

/-- A search for all columns, in the order of identities or none. -/
theorem run_select (holds : database.Holds table) (binds : Binds table condition? args placed?)
    {order? : Option String}
    (byIdentity : ∀ column ∈ order?, column = table.definition.identity)
    (ascending : (table.matching placed?).Pairwise fun a b => a.identity < b.identity)
    (whole : ∀ row ∈ table.matching placed?,
      row.cells.length = table.definition.columns.length) :
    database.run (.select
        ((table.definition.identity :: table.definition.columnNames).map columnNameOf)
        table.definition.name condition? (orderKeys order?)) args =
      .ok (.found ((table.matching placed?).map (Table.entries table.definition)), database) := by
  obtain ⟨order, ordered, known⟩ := order_identity table byIdentity
  have counted : countValues args.length (Statement.placeholders (.select
      ((table.definition.identity :: table.definition.columnNames).map columnNameOf)
      table.definition.name condition? (orderKeys order?))) = .ok () :=
    if_pos binds.counted.symm
  have bound : (Statement.select
      ((table.definition.identity :: table.definition.columnNames).map columnNameOf)
      table.definition.name condition? (orderKeys order?)).bind (args.map Cell.ofValue) =
        .select ((table.definition.identity :: table.definition.columnNames).map columnNameOf)
          table.definition.name ((Statement.replaceCondition Statement.takeCell
            condition?).run (args.map Cell.ofValue)).1 (orderKeys order?) := rfl
  unfold run
  rw [bound, counted, carryOut, holds.found]
  simp only [bind, Except.bind, selection_names holds.distinct, binds.placed, ordered,
    Table.select_places ascending whole known]
  rfl

end Database

end EntityTables
