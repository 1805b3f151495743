/-
# EntityTables.Proofs.Content.Writes — writes that fail leave no trace

A write looks up an adapter, then makes values of a record if it is about one, and only then runs a
statement, or several in a transaction. All that comes before the first statement leaves the storage
alone; a single statement that fails does so too, and a transaction takes back what was done in it.

* `WriteRequest` — any write, by a type or by a content identifier; `perform` does it.
* `WriteRequest.failsClean` — none of them leaves a trace if it fails.
-/
import EntityTables.Content.Access
import EntityTables.Proofs.Gateway.Failure

namespace EntityTables

set_option autoImplicit false

open EntityTables.Action

/-- A write: of the records of a type, or of the rows that a content identifier leads to. -/
inductive WriteRequest (objects : Objects) where
  | insert (entity : EntityType objects) (record : entity.Record)
  | insertAll (entity : EntityType objects) (records : List entity.Record)
  | insertChild (entity : EntityType objects) (parent : Int64) (record : entity.Record)
  | update (path : String) (values : RowValues) (predicate : Predicate)
  | updateEntity (entity : EntityType objects) (record : entity.Record)
  | delete (path : String) (predicate : Predicate)
  | contentInsert (authority uri : String) (values : RowValues)
  | contentBulkInsert (authority uri : String) (rows : List RowValues)
  | contentUpdate (authority uri : String) (values : RowValues) (predicate : Predicate)
  | contentDelete (authority uri : String) (predicate : Predicate)

namespace WriteRequest

variable {objects : Objects}

/-- What a write gives: an identity, an identifier, or how many rows there are. -/
def Answer : WriteRequest objects → Type
  | insert .. | insertChild .. => Int64
  | contentInsert .. => String
  | _ => Nat

/-- Does a write. -/
def perform : (request : WriteRequest objects) → Action (Session Connection) request.Answer
  | insert entity record => Dispatcher.insert entity record
  | insertAll entity records => Dispatcher.insertAll entity records
  | insertChild entity parent record => Dispatcher.insertChild entity parent record
  | update path values predicate => Dispatcher.update path values predicate
  | updateEntity entity record => Dispatcher.updateEntity entity record
  | delete path predicate => Dispatcher.delete path predicate
  | contentInsert authority uri values => ContentAccess.insert authority uri values
  | contentBulkInsert authority uri rows => ContentAccess.bulkInsert authority uri rows
  | contentUpdate authority uri values predicate =>
    ContentAccess.update authority uri values predicate
  | contentDelete authority uri predicate => ContentAccess.delete authority uri predicate

end WriteRequest

/-! ## Looking up adapters -/

theorem Dispatcher.adapter_keeps (path : String) :
    Keeps Session.stored (Dispatcher.adapter path) :=
  Session.onRegistry_keeps _

namespace ContentAccess

theorem resolve_keeps (authority uri : String) :
    Keeps Session.stored (resolve authority uri) := by
  refine .bind (.ofExcept _) fun parsed => ?_
  split
  · refine .bind (Session.onRegistry_keeps _) fun found? => ?_
    cases found? with
    | none => exact .throw _
    | some found => exact .pure _
  · exact .throw _

theorem collection_keeps (authority uri : String) :
    Keeps Session.stored (collection authority uri) := by
  refine .bind (resolve_keeps authority uri) fun (found, selector) => ?_
  cases selector with
  | all => exact .pure _
  | row identity => exact .throw _

end ContentAccess

/-! ## Batches -/

theorem Dispatcher.insertAll_eq_transaction {objects : Objects} (entity : EntityType objects)
    (records : List entity.Record) :
    Dispatcher.insertAll (σ := Connection) entity records =
      (Dispatcher.adapter entity.path >>= fun found =>
        Gateway.transaction (Session.addEach found.table entity.encode records)) := rfl

theorem ContentAccess.bulkInsert_eq_transaction (authority uri : String) (rows : List RowValues) :
    ContentAccess.bulkInsert (σ := Connection) authority uri rows =
      (ContentAccess.collection authority uri >>= fun found =>
        Gateway.transaction (Session.addEach found.table .ok rows)) := rfl

/-! ## Any write -/

/-- A write that fails leaves the database and an open transaction as they were. -/
theorem WriteRequest.failsClean {objects : Objects} (request : WriteRequest objects) :
    FailsClean Session.stored request.perform := by
  have insertRow (table : String) (values : RowValues) :=
    Session.onStorage_failsClean (Connection.insertRow_failsClean table values)
  have updateRows (table : String) (values : RowValues) (predicate : Predicate) :=
    Session.onStorage_failsClean (Connection.updateRows_failsClean table values predicate)
  have deleteRows (table : String) (predicate : Predicate) :=
    Session.onStorage_failsClean (Connection.deleteRows_failsClean table predicate)
  cases request with
  | insert entity record =>
    refine .bind (Dispatcher.adapter_keeps _) fun found => .bind (.ofExcept _) fun values => ?_
    exact insertRow _ _
  | insertAll entity records =>
    show FailsClean Session.stored (Dispatcher.insertAll entity records)
    rw [Dispatcher.insertAll_eq_transaction]
    exact .bind (Dispatcher.adapter_keeps _) fun _ =>
      Session.transaction_failsClean (Session.addEach_keeps _ _ _)
  | insertChild entity parent record =>
    refine .bind (Dispatcher.adapter_keeps _) fun found => .bind (.ofExcept _) fun reference => ?_
    exact .bind (.ofExcept _) fun values => insertRow _ _
  | update path values predicate =>
    exact .bind (Dispatcher.adapter_keeps _) fun found => updateRows _ _ _
  | updateEntity entity record =>
    refine .bind (Dispatcher.adapter_keeps _) fun found => .bind (.ofExcept _) fun values => ?_
    exact updateRows _ _ _
  | delete path predicate =>
    exact .bind (Dispatcher.adapter_keeps _) fun found => deleteRows _ _
  | contentInsert authority uri values =>
    refine .bind (ContentAccess.collection_keeps _ _) fun found => ?_
    exact (insertRow _ _).answer fun identity => ⟨_, rfl⟩
  | contentBulkInsert authority uri rows =>
    show FailsClean Session.stored (ContentAccess.bulkInsert authority uri rows)
    rw [ContentAccess.bulkInsert_eq_transaction]
    exact .bind (ContentAccess.collection_keeps _ _) fun _ =>
      Session.transaction_failsClean (Session.addEach_keeps _ _ _)
  | contentUpdate authority uri values predicate =>
    exact .bind (ContentAccess.resolve_keeps _ _) fun _ => updateRows _ _ _
  | contentDelete authority uri predicate =>
    exact .bind (ContentAccess.resolve_keeps _ _) fun _ => deleteRows _ _

end EntityTables
