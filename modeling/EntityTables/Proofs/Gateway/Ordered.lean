/-
# EntityTables.Proofs.Gateway.Ordered — no two rows of a table have one identity

The rows of a table stand in the order of their identities, which are all different. Every statement
keeps this of every table, with any values and whether it is carried out or refused; so it holds
after any calls of a gateway, transactions that were taken back among them.

* `putRow_ascending`, `Ascending.insert`, `Ascending.update`, `Ascending.delete` — one table.
* `Database.Ordered` — all tables; `carryOut_ordered` — one statement.
* `Connection.Sound` — the database, and the one to return to; `Connection.Reached.sound`.
-/
import EntityTables.Proofs.Database.Reach
import EntityTables.Proofs.Gateway.Failure

namespace EntityTables

set_option autoImplicit false

open Sql

/-! ## One table -/

namespace Database

/-- A row of a new identity is put where the order has it. -/
theorem putRow_ascending {row : StoredRow} {rows : List StoredRow}
    (ascending : rows.Pairwise fun a b => a.identity < b.identity)
    (fresh : ∀ other ∈ rows, other.identity ≠ row.identity) :
    (putRow row rows).Pairwise fun a b => a.identity < b.identity := by
  induction rows with
  | nil => exact List.pairwise_singleton _ _
  | cons first rest ih =>
    obtain ⟨below, others⟩ := List.pairwise_cons.mp ascending
    unfold putRow
    split
    · next before =>
      refine List.pairwise_cons.mpr ⟨fun other member => ?_, ascending⟩
      rcases List.mem_cons.mp member with rfl | behind
      · exact before
      · exact Int64.lt_trans before (below other behind)
    · next behind =>
      have later : first.identity < row.identity :=
        Int64.lt_of_le_of_ne (Int64.not_lt.mp behind) (fresh first List.mem_cons_self)
      refine List.pairwise_cons.mpr
        ⟨fun other member => ?_, ih others fun other among => fresh other (.tail _ among)⟩
      rcases List.mem_cons.mp ((Table.putRow_perm row rest).mem_iff.mp member) with rfl | among
      · exact later
      · exact below other among

namespace Table

variable {table changed : Table} {set : List (Place × Cell)}
  {placed? : Option (Condition Place Cell)}

theorem ascending_empty (definition : TableDefinition) : (empty definition).Ascending :=
  List.Pairwise.nil

theorem Ascending.insert {identity : Int64} (ascending : table.Ascending)
    (added : table.insert set = .ok (identity, changed)) : changed.Ascending := by
  obtain ⟨-, free, rfl⟩ := insert_eq_ok added
  refine putRow_ascending ascending fun other member same => ?_
  exact List.any_eq_false.mp free other member (decide_eq_true same)

/-- A row that gets an identity of another is refused, so one row changed keeps the order. -/
theorem Ascending.change {row : StoredRow} (ascending : table.Ascending)
    (made : change set table row = .ok changed) : changed.Ascending := by
  obtain ⟨becomes, -, made⟩ := bind_eq_ok_iff.mp made
  simp only at made
  split at made
  · cases made
  · next free =>
    cases made
    refine putRow_ascending (List.Pairwise.filter _ ascending) fun other member same => ?_
    exact free (List.any_eq_true.mpr ⟨other, member, decide_eq_true same⟩)

theorem Ascending.foldlM_change {rows : List StoredRow} (ascending : table.Ascending)
    (folded : rows.foldlM (Table.change set) table = .ok changed) : changed.Ascending := by
  induction rows generalizing table with
  | nil =>
    cases folded
    exact ascending
  | cons first others ih =>
    obtain ⟨between, one, folded⟩ := bind_eq_ok_iff.mp folded
    exact ih (ascending.change one) folded

theorem Ascending.update {count : Nat} (ascending : table.Ascending)
    (made : table.update set placed? = .ok (count, changed)) : changed.Ascending := by
  obtain ⟨after, folded, made⟩ := bind_eq_ok_iff.mp made
  cases made
  exact ascending.foldlM_change folded

theorem Ascending.delete (ascending : table.Ascending)
    (placed? : Option (Condition Place Cell)) : (table.delete placed?).2.Ascending :=
  List.Pairwise.filter _ ascending

end Table

/-! ## All tables -/

/-- The rows of every table stand in the order of their identities, which are all different. -/
def Ordered (database : Database) : Prop := ∀ table ∈ database.tables, table.Ascending

variable {database after : Database} {table changed : Table} {name : String}

theorem ordered_empty : Database.empty.Ordered := by
  intro table member
  cases member

theorem Ordered.ascending (ordered : database.Ordered) (found : database.table name = .ok table) :
    table.Ascending :=
  ordered table (List.mem_of_find?_eq_some (table_eq_ok_iff.mp found))

theorem Ordered.withTable (ordered : database.Ordered) (name : String)
    (ascending : changed.Ascending) : (database.withTable name changed).Ordered := by
  intro table member
  obtain ⟨other, among, rfl⟩ := List.mem_map.mp member
  split
  · exact ascending
  · exact ordered other among

theorem Ordered.create {spelling : String} {definition : TableDefinition}
    (ordered : database.Ordered) (made : database.create spelling definition = .ok after) :
    after.Ordered := by
  unfold Database.create at made
  split at made
  · cases made
  · split at made
    · cases made
    · split at made
      · cases made
      · cases made
        intro table member
        rcases List.mem_append.mp member with before | new
        · exact ordered table before
        · rw [List.mem_singleton.mp new]
          exact Table.ascending_empty definition

/-- A statement that is carried out keeps the order of all rows. -/
theorem carryOut_ordered {counted : Except Fault Unit} {statement : Statement Cell}
    {outcome : Outcome} (ordered : database.Ordered)
    (ran : carryOut counted database statement = .ok (outcome, after)) : after.Ordered := by
  cases statement with
  | createTable spelling definition =>
    obtain ⟨made, created, ran⟩ := bind_eq_ok_iff.mp ran
    cases ran
    exact ordered.create created
  | dropTable name =>
    cases ran
    exact fun table member => ordered table (List.mem_of_mem_filter member)
  | insert name values =>
    obtain ⟨table, found, ran⟩ := bind_eq_ok_iff.mp ran
    obtain ⟨placed, -, ran⟩ := bind_eq_ok_iff.mp ran
    obtain ⟨-, -, ran⟩ := bind_eq_ok_iff.mp ran
    obtain ⟨⟨identity, changed⟩, added, ran⟩ := bind_eq_ok_iff.mp ran
    cases ran
    exact ordered.withTable name ((ordered.ascending found).insert added)
  | update name assignments condition? =>
    obtain ⟨table, found, ran⟩ := bind_eq_ok_iff.mp ran
    obtain ⟨set, -, ran⟩ := bind_eq_ok_iff.mp ran
    obtain ⟨placed?, -, ran⟩ := bind_eq_ok_iff.mp ran
    obtain ⟨-, -, ran⟩ := bind_eq_ok_iff.mp ran
    obtain ⟨⟨count, changed⟩, made, ran⟩ := bind_eq_ok_iff.mp ran
    cases ran
    exact ordered.withTable name ((ordered.ascending found).update made)
  | delete name condition? =>
    obtain ⟨table, found, ran⟩ := bind_eq_ok_iff.mp ran
    obtain ⟨placed?, -, ran⟩ := bind_eq_ok_iff.mp ran
    obtain ⟨-, -, ran⟩ := bind_eq_ok_iff.mp ran
    cases ran
    exact ordered.withTable name ((ordered.ascending found).delete placed?)
  | select columns name condition? order =>
    obtain ⟨table, -, ran⟩ := bind_eq_ok_iff.mp ran
    obtain ⟨places, -, ran⟩ := bind_eq_ok_iff.mp ran
    obtain ⟨placed?, -, ran⟩ := bind_eq_ok_iff.mp ran
    obtain ⟨keys, -, ran⟩ := bind_eq_ok_iff.mp ran
    obtain ⟨-, -, ran⟩ := bind_eq_ok_iff.mp ran
    cases ran
    exact ordered

end Database

/-! ## Calls of a gateway -/

namespace Action

variable {σ α β : Type} {holds : σ → Prop}

/-- A step leads only to states that something holds of, from any state that it holds of. -/
def Preserves (holds : σ → Prop) (action : Action σ α) : Prop :=
  ∀ state, holds state → holds (action state).2

theorem Preserves.pure (a : α) : Preserves holds (Pure.pure a : Action σ α) :=
  fun _ held => held

theorem Preserves.throw (fault : Error) :
    Preserves holds (MonadExcept.throw fault : Action σ α) := fun _ held => held

theorem Preserves.bind {action : Action σ α} {next : α → Action σ β}
    (first : Preserves holds action) (second : ∀ a, Preserves holds (next a)) :
    Preserves holds (action >>= next) := by
  intro state held
  have between := first state held
  rw [bind_run]
  rcases ran : action state with ⟨fault | a, later⟩
  · rw [ran] at between
    exact between
  · rw [ran] at between
    exact second a later between

theorem Preserves.forM {step : α → Action σ PUnit} (each : ∀ a, Preserves holds (step a))
    (list : List α) : Preserves holds (list.forM step) := by
  induction list with
  | nil => exact .pure _
  | cons a rest ih => exact .bind (each a) fun _ => ih

end Action

namespace Connection

open EntityTables.Action

/-- The rows of all tables are in order, also in the database to return to. -/
structure Sound (connection : Connection) : Prop where
  ordered : connection.database.Ordered
  saved : ∀ database ∈ connection.saved?, database.Ordered

theorem sound_empty : Connection.empty.Sound := ⟨Database.ordered_empty, nofun⟩

theorem note_preserves (text : String) : Preserves Sound (note text) :=
  fun _ sound => ⟨sound.ordered, sound.saved⟩

/-- To go on with the database after a statement keeps the order if the statement does. -/
theorem proceed_preserves {step : Database → Except Fault (Database.Outcome × Database)}
    (ordered : ∀ database outcome after, database.Ordered →
      step database = .ok (outcome, after) → after.Ordered) : Preserves Sound (proceed step) := by
  intro connection sound
  rw [proceed_run]
  cases ran : step connection.database with
  | error fault => exact sound
  | ok made => exact ⟨ordered _ _ _ sound.ordered ran, sound.saved⟩

theorem run_preserves (text : String) (values : List Value) : Preserves Sound (run text values) := by
  refine .bind (note_preserves text) fun _ => ?_
  split
  · exact .throw _
  · exact proceed_preserves fun database _ _ => Database.carryOut_ordered

theorem execute_preserves (text : String) :
    Preserves Sound (Gateway.execute text : Action Connection Unit) := by
  refine .bind (note_preserves text) fun _ => .forM (fun part => ?_) _
  cases part with
  | none => exact .throw _
  | some statement =>
    exact .bind (proceed_preserves fun database _ _ => Database.carryOut_ordered) fun _ => .pure _

/-- A step that ends as the run of a text does. -/
theorem preserves_of_run {α : Type} {text : String} {values : List Value}
    {action : Action Connection α}
    (same : ∀ connection, (action connection).2 = (run text values connection).2) :
    Preserves Sound action := by
  intro connection sound
  rw [same]
  exact run_preserves text values connection sound

theorem updateRows_preserves (table : String) (values : RowValues) (predicate : Predicate) :
    Preserves Sound (Gateway.updateRows table values predicate : Action Connection Nat) := by
  show Preserves Sound (if values.isEmpty then _ else _)
  split
  · exact .pure 0
  · exact preserves_of_run (count_snd _ _)

theorem openTransaction_preserves :
    Preserves Sound (Gateway.openTransaction : Action Connection Unit) := by
  rintro ⟨database, saved?, statements⟩ sound
  cases saved? with
  | none => exact ⟨sound.ordered, fun _ same => Option.some.inj same ▸ sound.ordered⟩
  | some saved => exact sound

theorem commit_preserves : Preserves Sound (Gateway.commit : Action Connection Unit) := by
  rintro ⟨database, saved?, statements⟩ sound
  cases saved? with
  | none => exact sound
  | some saved => exact ⟨sound.ordered, nofun⟩

theorem rollback_preserves : Preserves Sound (Gateway.rollback : Action Connection Unit) := by
  rintro ⟨database, saved?, statements⟩ sound
  cases saved? with
  | none => exact sound
  | some saved => exact ⟨sound.saved saved rfl, nofun⟩

/-- The connections that calls of a gateway lead to, from a new one. -/
inductive Reached : Connection → Prop
  | empty : Reached .empty
  | execute {connection : Connection} (before : Reached connection) (text : String) :
      Reached (Gateway.execute text connection).2
  | insertRow {connection : Connection} (before : Reached connection) (table : String)
      (values : RowValues) : Reached (Gateway.insertRow table values connection).2
  | updateRows {connection : Connection} (before : Reached connection) (table : String)
      (values : RowValues) (predicate : Predicate) :
      Reached (Gateway.updateRows table values predicate connection).2
  | deleteRows {connection : Connection} (before : Reached connection) (table : String)
      (predicate : Predicate) : Reached (Gateway.deleteRows table predicate connection).2
  | queryRows {connection : Connection} (before : Reached connection) (table : String)
      (columns : List String) (predicate : Predicate) (order? : Option String) :
      Reached (Gateway.queryRows table columns predicate order? connection).2
  | rawQuery {connection : Connection} (before : Reached connection) (text : String)
      (values : List Value) : Reached (Gateway.rawQuery text values connection).2
  | openTransaction {connection : Connection} (before : Reached connection) :
      Reached (Gateway.openTransaction connection).2
  | commit {connection : Connection} (before : Reached connection) :
      Reached (Gateway.commit connection).2
  | rollback {connection : Connection} (before : Reached connection) :
      Reached (Gateway.rollback connection).2

/-- Whatever a gateway was called for, the rows of all tables are in order. -/
theorem Reached.sound {connection : Connection} (reached : Reached connection) :
    connection.Sound := by
  induction reached with
  | empty => exact sound_empty
  | execute _ text ih => exact execute_preserves text _ ih
  | insertRow _ table values ih => exact preserves_of_run (identity_snd _ _) _ ih
  | updateRows _ table values predicate ih => exact updateRows_preserves table values predicate _ ih
  | deleteRows _ table predicate ih => exact preserves_of_run (count_snd _ _) _ ih
  | queryRows _ table columns predicate order? ih => exact preserves_of_run (rows_snd _ _) _ ih
  | rawQuery _ text values ih => exact preserves_of_run (rows_snd _ _) _ ih
  | openTransaction _ ih => exact openTransaction_preserves _ ih
  | commit _ ih => exact commit_preserves _ ih
  | rollback _ ih => exact rollback_preserves _ ih

end Connection

end EntityTables
