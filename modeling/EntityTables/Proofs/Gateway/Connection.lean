/-
# EntityTables.Proofs.Gateway.Connection — row operations on a connection

The text of each row operation is noted and read back as the statement that it is meant to be, and
the statement does what its table does. A refused statement changes nothing but the notes, and a
transaction takes back what failed work has done.

* `Connection.after` — a connection after a statement.
* `insertRow_run`, `updateRows_run`, `deleteRows_run`, `queryRows_run` — the row operations.
* `transaction_run` — work that counts as a whole or not at all.
-/
import EntityTables.Gateway.Connection
import EntityTables.Proofs.Database.Statements
import EntityTables.Session

namespace EntityTables

set_option autoImplicit false

open Sql Database

namespace Connection

variable {connection : Connection} {table : Table} {values : RowValues} {text : String}

/-- A connection with a statement noted, and the database after it. -/
def after (connection : Connection) (text : String) (database : Database) : Connection :=
  { connection with database, statements := connection.statements ++ [text] }

theorem proceed_run (step : Database → Except Fault (Outcome × Database))
    (connection : Connection) :
    proceed step connection =
      match step connection.database with
      | .error fault => (.error (.ofSql fault), connection)
      | .ok (outcome, database) => (.ok outcome, { connection with database }) := by
  show (match step connection.database with
    | .error fault => (throw (Error.ofSql fault) : Action Connection Outcome)
    | .ok (outcome, database) => do
      set { connection with database := database }
      return outcome) connection = _
  cases step connection.database with
  | error fault => rfl
  | ok made => rfl

/-- A statement that is read back does what its database does. -/
theorem run_run {statement : Statement Operand} (read : firstStatement? text = some statement)
    (given : List Value) :
    run text given connection =
      match connection.database.run statement given with
      | .error fault => (.error (.ofSql fault), connection.after text connection.database)
      | .ok (outcome, database) => (.ok outcome, connection.after text database) := by
  unfold run
  rw [read]
  show proceed (fun database => database.run statement given)
    (connection.after text connection.database) = _
  exact proceed_run _ (connection.after text connection.database)

/-- A text that was run was a statement, which the database has carried out. -/
theorem run_eq_ok {given : List Value} {outcome : Outcome} {after : Connection}
    (ran : run text given connection = (.ok outcome, after)) :
    ∃ statement database, firstStatement? text = some statement ∧
      connection.database.run statement given = .ok (outcome, database) ∧
        after = connection.after text database := by
  cases read : firstStatement? text with
  | none =>
    unfold run at ran
    rw [read] at ran
    cases ran
  | some statement =>
    rw [run_run read] at ran
    cases carried : connection.database.run statement given with
    | error fault =>
      rw [carried] at ran
      cases ran
    | ok made =>
      obtain ⟨other, database⟩ := made
      rw [carried] at ran
      cases ran
      exact ⟨statement, database, rfl, carried, rfl⟩

theorem identity_snd (text : String) (values : List Value) (connection : Connection) :
    (identity text values connection).2 = (run text values connection).2 := by
  refine Action.bind_snd (fun outcome _ => ?_) connection
  cases outcome <;> rfl

theorem count_snd (text : String) (values : List Value) (connection : Connection) :
    (count text values connection).2 = (run text values connection).2 := by
  refine Action.bind_snd (fun outcome _ => ?_) connection
  cases outcome <;> rfl

theorem rows_snd (text : String) (values : List Value) (connection : Connection) :
    (rows text values connection).2 = (run text values connection).2 := by
  refine Action.bind_snd (fun outcome state => ?_) connection
  cases outcome with
  | found rows =>
    show (Action.ofExcept (rows.mapM readRow) state).2 = state
    cases rows.mapM readRow <;> rfl
  | _ => rfl

/-- A text of one part. -/
theorem execute_run {statement? : Option (Statement Operand)} (read : script text = [statement?]) :
    Gateway.execute text connection =
      runPart statement? (connection.after text connection.database) := by
  show (note text >>= fun _ => (script text).forM runPart) connection = _
  rw [read]
  show (runPart statement? >>= fun _ => pure ()) (connection.after text connection.database) = _
  rw [Action.bind_run]
  rcases runPart statement? (connection.after text connection.database) with ⟨fault | done, later⟩
  · rfl
  · rfl

/-- A text that creates a table. -/
theorem execute_create {spelling : String} {definition : TableDefinition}
    (read : script text = [some (.createTable spelling definition)]) :
    Gateway.execute text connection =
      match connection.database.create spelling definition with
      | .error fault => (.error (.ofSql fault), connection.after text connection.database)
      | .ok database => (.ok (), connection.after text database) := by
  have ran (database : Database) : database.runAlone (.createTable spelling definition) =
      (database.create spelling definition).map fun made => (.done, made) := by
    show (database.create spelling definition >>= fun made => pure (Outcome.done, made)) = _
    cases database.create spelling definition <;> rfl
  have database : (connection.after text connection.database).database = connection.database := rfl
  rw [execute_run read, runPart, Action.bind_run, proceed_run, ran, database]
  cases connection.database.create spelling definition <;> rfl

/-- A text that is no statement. -/
theorem execute_malformed (read : script text = [none]) :
    Gateway.execute text connection =
      (.error (.ofSql .malformed), connection.after text connection.database) := by
  rw [execute_run read]
  rfl

/-- An addition gives the table's next identity, if there is one. -/
theorem insertRow_run (holds : connection.database.Holds table)
    (fits : values.Fits table.definition) :
    Gateway.insertRow table.definition.name values connection =
      let text := insertText table.definition.name values.columns
      match table.freshIdentity with
      | .error fault => (.error (.ofSql fault), connection.after text connection.database)
      | .ok identity =>
        (.ok identity, connection.after text (connection.database.withTable
          table.definition.name (table.withRow identity values))) := by
  have named : '\x00' ∉ table.definition.name.toList := holds.free _ List.mem_cons_self
  have free : ∀ name ∈ values.columns, '\x00' ∉ name.toList :=
    fun name member => holds.free name (.tail _ (.tail _ (fits name member)))
  show identity (insertText table.definition.name values.columns) values.values connection = _
  unfold identity
  rw [Action.bind_run, run_run (firstStatement?_of_script (script_insertText named free)),
    run_insert holds fits]
  cases table.freshIdentity <;> rfl

/-- What the predicate of an identity asks of a table's rows. -/
theorem asks_byIdentity {definition : TableDefinition} (free : definition.NulFree)
    (identity : Int64) :
    (Predicate.byIdentity definition.identity identity).Asks definition
      (some (Table.hasIdentity identity)) :=
  .equals (.integer identity) (free _ (.tail _ List.mem_cons_self))
    (TableDefinition.place?_identity definition)

/-- A change of no column runs no statement. -/
theorem updateRows_empty {name : String} {predicate : Predicate} (none : values.isEmpty = true) :
    Gateway.updateRows name values predicate connection = (.ok 0, connection) := by
  show (if values.isEmpty then (pure 0 : Action Connection Nat) else _) connection = _
  rw [if_pos none]
  rfl

/-- A change of the rows that a predicate asks for. -/
theorem updateRows_run (holds : connection.database.Holds table)
    (fits : values.Fits table.definition) (some : values.isEmpty = false) {predicate : Predicate}
    {placed? : Option (Condition Place Cell)} (asks : predicate.Asks table.definition placed?) :
    Gateway.updateRows table.definition.name values predicate connection =
      let text := updateText table.definition.name values.columns predicate
      match table.update (values.placed table.definition) placed? with
      | .error fault => (.error (.ofSql fault), connection.after text connection.database)
      | .ok (count, changed) =>
        (.ok count, connection.after text
          (connection.database.withTable table.definition.name changed)) := by
  have named : '\x00' ∉ table.definition.name.toList := holds.free _ List.mem_cons_self
  have free : ∀ name ∈ values.columns, '\x00' ∉ name.toList :=
    fun name member => holds.free name (.tail _ (.tail _ (fits name member)))
  have present := RowValues.columns_ne_nil some
  obtain ⟨ts, condition?, means, binds⟩ := asks.means
  show (if values.isEmpty then (pure 0 : Action Connection Nat)
    else count (updateText table.definition.name values.columns predicate)
      (values.values ++ predicate.args)) connection = _
  rw [if_neg (by simp [some]), count, Action.bind_run,
    run_run (firstStatement?_of_script (script_updateText named present free means)),
    run_update holds fits binds]
  cases table.update (values.placed table.definition) placed? <;> rfl

/-- A removal of the rows that a predicate asks for. -/
theorem deleteRows_run (holds : connection.database.Holds table) {predicate : Predicate}
    {placed? : Option (Condition Place Cell)} (asks : predicate.Asks table.definition placed?) :
    Gateway.deleteRows table.definition.name predicate connection =
      (.ok (table.delete placed?).1,
        connection.after (deleteText table.definition.name predicate)
          (connection.database.withTable table.definition.name (table.delete placed?).2)) := by
  have named : '\x00' ∉ table.definition.name.toList := holds.free _ List.mem_cons_self
  obtain ⟨ts, condition?, means, binds⟩ := asks.means
  show count (deleteText table.definition.name predicate) predicate.args connection = _
  rw [count, Action.bind_run, run_run (firstStatement?_of_script (script_deleteText named means)),
    run_delete holds binds]
  rfl

/-- A search for all columns of the rows that a predicate asks for. -/
theorem queryRows_run (holds : connection.database.Holds table) {predicate : Predicate}
    {placed? : Option (Condition Place Cell)} (asks : predicate.Asks table.definition placed?)
    {order? : Option String}
    (byIdentity : ∀ column ∈ order?, column = table.definition.identity)
    (ascending : (table.matching placed?).Pairwise fun a b => a.identity < b.identity)
    (whole : ∀ row ∈ table.matching placed?,
      row.cells.length = table.definition.columns.length) :
    let columns := table.definition.identity :: table.definition.columnNames
    Gateway.queryRows table.definition.name columns predicate (order?.map quoteName) connection =
      (((table.matching placed?).map (Table.entries table.definition)).mapM readRow,
        connection.after (selectText table.definition.name columns predicate
          (order?.map quoteName)) connection.database) := by
  have named : '\x00' ∉ table.definition.name.toList := holds.free _ List.mem_cons_self
  have identified : '\x00' ∉ table.definition.identity.toList :=
    holds.free _ (.tail _ List.mem_cons_self)
  have free : ∀ name ∈ table.definition.identity :: table.definition.columnNames,
      '\x00' ∉ name.toList := fun name member => holds.free name (.tail _ member)
  have ordered : ∀ column ∈ order?, '\x00' ∉ column.toList :=
    fun column member => byIdentity column member ▸ identified
  obtain ⟨ts, condition?, means, binds⟩ := asks.means
  show rows (selectText table.definition.name
    (table.definition.identity :: table.definition.columnNames) predicate
      (order?.map quoteName)) predicate.args connection = _
  rw [rows, Action.bind_run,
    run_run (firstStatement?_of_script (script_selectText named free means ordered)),
    run_select holds binds byIdentity ascending whole]
  simp only
  cases ((table.matching placed?).map (Table.entries table.definition)).mapM readRow <;> rfl

/-! ## Transactions -/

theorem openTransaction_run (closed : connection.saved? = none) :
    Gateway.openTransaction connection =
      (.ok (), { connection with saved? := some connection.database }) := by
  obtain ⟨current, saved?, statements⟩ := connection
  cases closed
  rfl

/-- No transaction is opened within another. -/
theorem openTransaction_nested {database : Database} (opened : connection.saved? = some database) :
    Gateway.openTransaction connection = (.error (.ofSql .nestedTransaction), connection) := by
  obtain ⟨current, saved?, statements⟩ := connection
  cases opened
  rfl

theorem commit_run {database : Database} (opened : connection.saved? = some database) :
    Gateway.commit connection = (.ok (), { connection with saved? := none }) := by
  obtain ⟨current, saved?, statements⟩ := connection
  cases opened
  rfl

theorem rollback_run {database : Database} (opened : connection.saved? = some database) :
    Gateway.rollback connection = (.ok (), { connection with database, saved? := none }) := by
  obtain ⟨current, saved?, statements⟩ := connection
  cases opened
  rfl

end Connection

/-- A session goes on with what its storage becomes. -/
theorem Session.onStorage_run {α : Type} {session : Session Connection}
    {action : Action Connection α} {outcome : Except Error α} {storage : Connection}
    (ran : action session.storage = (outcome, storage)) :
    Session.onStorage action session = (outcome, { session with storage }) := by
  unfold Session.onStorage
  rw [Action.within_run, ran]

/-- What a session does to its storage is what the storage does. -/
theorem Session.storage_run {α : Type} {session after : Session Connection}
    {action : Action Connection α} {outcome : Except Error α}
    (ran : Session.onStorage action session = (outcome, after)) :
    action session.storage = (outcome, after.storage) := by
  unfold Session.onStorage at ran
  rw [Action.within_run] at ran
  cases ran
  rfl

namespace Gateway

variable {σ α : Type} [Gateway σ] {work : Action σ α} {state opened worked ended : σ}

/-- Once a transaction is open, its work is kept if it succeeds and taken back if it fails. -/
theorem transaction_run (start : openTransaction state = (.ok (), opened)) :
    transaction work state =
      match work opened with
      | (.ok a, worked) =>
        match commit worked with
        | (.ok (), ended) => (.ok a, ended)
        | (.error fault, ended) => (rollback >>= fun _ => throw fault : Action σ α) ended
      | (.error fault, worked) => (rollback >>= fun _ => throw fault : Action σ α) worked := by
  unfold transaction
  rw [Action.bind_run, start]
  simp only [Action.tryCatch_run, Action.bind_run]
  -- a failed commit is taken back like failed work
  rcases work opened with ⟨fault | a, worked⟩
  · simp only
    rcases rollback worked with ⟨other | done, ended⟩ <;> rfl
  · simp only
    rcases commit worked with ⟨fault | done, ended⟩
    · simp only
      rcases rollback ended with ⟨other | done, last⟩ <;> rfl
    · rfl

/-- Work that succeeds counts as a whole. -/
theorem transaction_ok {a : α} (start : openTransaction state = (.ok (), opened))
    (done : work opened = (.ok a, worked)) (kept : commit worked = (.ok (), ended)) :
    transaction work state = (.ok a, ended) := by
  rw [transaction_run start, done]
  simp only [kept]

/-- Work that fails is taken back. -/
theorem transaction_error {fault : Error} (start : openTransaction state = (.ok (), opened))
    (failed : work opened = (.error fault, worked)) (taken : rollback worked = (.ok (), ended)) :
    transaction work state = (.error fault, ended) := by
  rw [transaction_run start, failed]
  simp only [Action.bind_run, taken]
  rfl

/-- Without a transaction there is no work. -/
theorem transaction_refused {fault : Error}
    (refused : openTransaction state = (.error fault, ended)) :
    transaction work state = (.error fault, ended) := by
  unfold transaction
  rw [Action.bind_run, refused]

end Gateway

end EntityTables
