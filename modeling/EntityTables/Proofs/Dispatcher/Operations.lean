/-
# EntityTables.Proofs.Dispatcher.Operations — typed operations on a table that stands

Once the table of an entity type has been created, each typed operation comes down to one operation
of that table: it leaves the registry, every other table and an open transaction as they are.

* `Ready` — the table of an entity type stands; `ready_of_createTable`.
* `Moves` — what a step does to a session whose one table it changes.
* `insertValues_run`, `updateEntity_run`, `delete_run` — what is written.
* `recordsOf`, `queryTable_run`, `findById_run` — what is found.
-/
import EntityTables.Dispatcher
import EntityTables.Proofs.Database.Held
import EntityTables.Proofs.Derive.Restated
import EntityTables.Proofs.Gateway.Connection
import EntityTables.Proofs.Registry
import EntityTables.Proofs.Sql.Broken

namespace EntityTables

set_option autoImplicit false

open Sql Database

variable {objects : Objects} {entity : EntityType objects} {compiled : Compiled} {table : Table}
  {session after : Session Connection}

/-! ## The table of a schema -/

namespace Schema

/-- The columns that a search selects are all columns of the table. -/
theorem selectedColumns_eq (compiled : Compiled) :
    compiled.selectedColumns =
      (compiled.schema.tableOf compiled.plans).identity ::
        (compiled.schema.tableOf compiled.plans).columnNames := by
  simp [Compiled.selectedColumns, tableOf, TableDefinition.columnNames, Compiled.inTable,
    ColumnPlan.declared, Function.comp_def]

theorem mem_columnNames {schema : Schema} {plans : List ColumnPlan} {plan : ColumnPlan}
    (member : plan ∈ plans) (kept : plan.inTable = true) :
    plan.column.name ∈ (schema.tableOf plans).columnNames :=
  List.mem_map.mpr ⟨plan.declared,
    List.mem_map_of_mem (List.mem_filter.mpr ⟨member, kept⟩), rfl⟩

end Schema

namespace EntityType.IsFor

variable {record : entity.Record} {values : RowValues}

theorem mem_table_of_mapped {plan : ColumnPlan} (member : plan ∈ compiled.mapped) :
    plan.column.name ∈ (compiled.schema.tableOf compiled.plans).columnNames := by
  obtain ⟨among, mapped⟩ := List.mem_filter.mp member
  exact Schema.mem_columnNames among (ColumnPlan.inTable_of_isMapped mapped)

/-- The values of a record are for columns of the table. -/
theorem fits_of_encode (made : entity.IsFor compiled.schema compiled)
    (encoded : entity.encode record = .ok values) :
    values.Fits (compiled.schema.tableOf compiled.plans) := by
  intro name member
  rw [made.columns_of_encode encoded] at member
  obtain ⟨plan, mapped, rfl⟩ := List.mem_map.mp member
  exact mem_table_of_mapped mapped

/-- Two planned columns of one name are the same. -/
theorem plan_unique (made : entity.IsFor compiled.schema compiled) {plan other : ColumnPlan}
    (first : plan ∈ compiled.plans) (second : other ∈ compiled.plans)
    (same : plan.column.name = other.column.name) : plan = other := by
  obtain ⟨columns, -⟩ :=
    Schema.plans_eq_ok_iff.mp (Schema.compile_eq_ok_iff.mp made.compiles).2.1
  have distinct := (List.nodup_cons.mp (names_of_compiles made.compiles)).2
  rw [← columns, List.map_map] at distinct
  exact List.inj_on_of_nodup_map distinct first second same

/-- The values of a record have the classes of their columns. -/
theorem suits_of_encode (made : entity.IsFor compiled.schema compiled)
    (encoded : entity.encode record = .ok values) :
    values.Suits (compiled.schema.tableOf compiled.plans) := by
  intro column member value given
  obtain ⟨plan, kept, rfl⟩ := List.mem_map.mp member
  obtain ⟨other, mapped, name, type, a, known, -, stored⟩ :=
    exists_left_of_mem (made.encode_spec encoded) (RowValues.get?_eq_some_iff.mp given)
  have same : other = plan :=
    made.plan_unique (List.mem_of_mem_filter mapped) (List.mem_of_mem_filter kept) name
  subst same
  cases present : value.isNull with
  | true => exact .inl rfl
  | false => exact .inr (made.kind_of_store mapped known stored present)

end EntityType.IsFor

/-! ## A table that stands -/

namespace Dispatcher

/-- The table of an entity type stands: the adapter of the type is there, and the database has the
table that the adapter's schema defines. -/
structure Ready (entity : EntityType objects) (compiled : Compiled) (table : Table)
    (session : Session Connection) : Prop where
  known : session.registry.Knows entity.toMapping compiled
  made : entity.IsFor compiled.schema compiled
  holds : session.storage.database.Holds table
  defined : table.definition = compiled.schema.tableOf compiled.plans

/-- What a step does to a session whose one table it changes: the registry, the other tables and an
open transaction stay as they are. -/
structure Moves (table changed : Table) (session after : Session Connection) : Prop where
  registry : after.registry = session.registry
  saved : after.storage.saved? = session.storage.saved?
  defined : changed.definition = table.definition
  holds : after.storage.database.Holds changed
  others : ∀ name, sameName table.definition.name name = false →
    after.storage.database.table name = session.storage.database.table name

theorem Ready.moves (ready : Ready entity compiled table session) {changed : Table}
    (moves : Moves table changed session after) : Ready entity compiled changed after :=
  ⟨moves.registry ▸ ready.known, ready.made, moves.holds, moves.defined.trans ready.defined⟩

/-- A session with another database and a statement noted. -/
def noted (session : Session Connection) (text : String) (database : Database) :
    Session Connection :=
  { session with storage := session.storage.after text database }

theorem moves_noted (holds : session.storage.database.Holds table) (text : String) :
    Moves table table session (noted session text session.storage.database) :=
  ⟨rfl, rfl, rfl, holds, fun _ _ => rfl⟩

theorem moves_withTable (holds : session.storage.database.Holds table) (changed : Table)
    (same : changed.definition = table.definition) (text : String) :
    Moves table changed session
      (noted session text (session.storage.database.withTable table.definition.name changed)) := by
  refine ⟨rfl, rfl, same, holds.withTable same, fun name apart => ?_⟩
  refine table_withTable_other ?_ apart
  rw [same]
  exact Reading.sameName_self _

theorem Moves.refl (holds : session.storage.database.Holds table) :
    Moves table table session session :=
  ⟨rfl, rfl, rfl, holds, fun _ _ => rfl⟩

theorem Moves.trans {middle last : Table} {between : Session Connection}
    (first : Moves table middle session between) (second : Moves middle last between after) :
    Moves table last session after := by
  refine ⟨second.registry.trans first.registry, second.saved.trans first.saved,
    second.defined.trans first.defined, second.holds, fun name apart => ?_⟩
  rw [second.others name (by rw [first.defined]; exact apart), first.others name apart]

/-- The adapter of a type whose table stands is given as it is. -/
theorem Ready.adapter_run (ready : Ready entity compiled table session) :
    ∃ found, adapter entity.path session = (.ok found, session) ∧
      found.mapping = entity.toMapping ∧ found.compiled = compiled ∧
        found.table = table.definition.name ∧ found.identity = table.definition.identity := by
  obtain ⟨found, ran, mapping, same⟩ := ready.known.adapter_run
  have ran : Registry.adapter entity.path session.registry = (.ok found, session.registry) := ran
  refine ⟨found, ?_, mapping, same, ?_, ?_⟩
  · unfold adapter Session.onRegistry
    rw [Action.within_run, ran]
  · rw [Instance.table, same, ready.defined]
    rfl
  · rw [Instance.identity, same, ready.defined]
    rfl

/-- The column by which a type names its records is the identity of its table. -/
theorem Ready.identity_eq (ready : Ready entity compiled table session) :
    entity.code.identity = table.definition.identity := by
  rw [ready.made.identity_eq, ready.defined]
  rfl

/-! ## Creating the table -/

/-- A new table is the last of a database. -/
theorem holds_create {database made : Database} {spelling : String} {definition : TableDefinition}
    (free : definition.NulFree) (created : database.create spelling definition = .ok made) :
    made.Holds (.empty definition) ∧ ∀ name, sameName definition.name name = false →
      made.table name = database.table name := by
  obtain ⟨-, fresh, distinct, rfl⟩ := create_eq_ok_iff.mp created
  refine ⟨⟨?_, free, distinct⟩, fun name apart => ?_⟩
  · have none : database.tables.find? (Table.isNamed definition.name) = none := by
      rw [List.find?_eq_none]
      exact List.any_eq_false.mp fresh
    rw [table_eq_ok_iff]
    show (database.tables ++ [Table.empty definition]).find? (Table.isNamed definition.name) = _
    rw [List.find?_append, none]
    simp [Table.isNamed, Table.empty, Reading.sameName_self]
  · have other : Table.isNamed name (.empty definition) = false := apart
    unfold Database.table
    rw [List.find?_append, List.find?_cons_of_neg (by simp [other]), List.find?_nil, Option.or_none]

/-- A table that was created stands, without rows; no other table and no open transaction has
changed. -/
theorem ready_of_createTable (coherent : session.registry.Coherent)
    (registered : session.registry.find? entity.path = some entity.toMapping)
    (made : ∀ compiled, entity.toMapping.compile = .ok compiled →
      entity.IsFor compiled.schema compiled)
    (created : createTable entity.path session = (.ok (), after)) :
    ∃ compiled, entity.toMapping.compile = .ok compiled ∧
      Ready entity compiled (.empty (compiled.schema.tableOf compiled.plans)) after ∧
        after.storage.saved? = session.storage.saved? ∧
          ∀ name, sameName compiled.schema.table name = false →
            after.storage.database.table name = session.storage.database.table name := by
  unfold createTable at created
  rw [Action.bind_run, adapter, Session.onRegistry, Action.within_run] at created
  rcases ran : Registry.adapter entity.path session.registry with ⟨fault | found, registry⟩
  · rw [ran] at created
    cases created
  · rw [ran] at created
    obtain ⟨compiles, knows⟩ := coherent.knows_of_adapter registered ran
    have isFor := made found.compiled compiles
    obtain ⟨-, -, -, written⟩ := Schema.compile_eq_ok_iff.mp isFor.compiles
    have executed : Action.within Session.storage
        (fun session storage => { session with storage := storage })
        (Gateway.execute found.compiled.createStatement)
        { session with registry := registry } = (.ok (), after) := created
    rw [Action.within_run, written] at executed
    -- where a name has NUL, no table is created: the text is not a statement
    by_cases free : (found.compiled.schema.tableOf found.compiled.plans).NulFree
    · rw [Connection.execute_create (Schema.script_definition free)] at executed
      cases made : session.storage.database.create (quoteName found.compiled.schema.table)
          (found.compiled.schema.tableOf found.compiled.plans) with
      | error fault =>
        simp only [made] at executed
        cases executed
      | ok database =>
        simp only [made] at executed
        cases executed
        obtain ⟨holds, others⟩ := holds_create free made
        exact ⟨found.compiled, compiles, ⟨knows, isFor, holds, rfl⟩, rfl, others⟩
    · rw [Connection.execute_malformed (Schema.script_definition_broken free)] at executed
      cases executed

/-! ## Additions -/

/-- An addition of values for columns of the table. -/
theorem insertValues_run (ready : Ready entity compiled table session) {values : RowValues}
    (fits : values.Fits table.definition) :
    match table.freshIdentity with
    | .error fault => ∃ after,
        Gateway.insertRow table.definition.name values session = (.error (.ofSql fault), after) ∧
          Moves table table session after
    | .ok identity => ∃ after,
        Gateway.insertRow table.definition.name values session = (.ok identity, after) ∧
          Moves table (table.withRow identity values) session after := by
  have ran := Connection.insertRow_run ready.holds fits
  cases fresh : table.freshIdentity with
  | error fault =>
    rw [fresh] at ran
    exact ⟨noted session _ _, Session.onStorage_run ran, moves_noted ready.holds _⟩
  | ok identity =>
    rw [fresh] at ran
    exact ⟨noted session _ _, Session.onStorage_run ran,
      moves_withTable ready.holds (table.withRow identity values) rfl _⟩

/-- A record that is not refused is added as its values. -/
theorem insert_eq (ready : Ready entity compiled table session) {record : entity.Record}
    {values : RowValues} (encoded : entity.encode record = .ok values) :
    insert entity record session =
      Gateway.insertRow table.definition.name values session := by
  obtain ⟨found, given, -, -, named, -⟩ := ready.adapter_run
  unfold insert
  rw [Action.bind_run, given, encoded, ← named]
  rfl

/-- A record that is refused is not added, and nothing changes. -/
theorem insert_refused (ready : Ready entity compiled table session) {record : entity.Record}
    {fault : Error} (refused : entity.encode record = .error fault) :
    insert entity record session = (.error fault, session) := by
  obtain ⟨found, given, -⟩ := ready.adapter_run
  unfold insert
  rw [Action.bind_run, given, refused]
  rfl

/-! ## Changes and removals -/

/-- A record without mapped columns changes nothing. -/
theorem updateEntity_empty (ready : Ready entity compiled table session) {record : entity.Record}
    {values : RowValues} (encoded : entity.encode record = .ok values)
    (none : values.isEmpty = true) :
    updateEntity entity record session = (.ok 0, session) := by
  obtain ⟨found, given, -⟩ := ready.adapter_run
  unfold updateEntity
  rw [Action.bind_run, given, encoded]
  exact Session.onStorage_run (Connection.updateRows_empty none)

/-- A record is written to the row of its identity, and no other row changes. -/
theorem updateEntity_run (ready : Ready entity compiled table session) {record : entity.Record}
    {values : RowValues} (encoded : entity.encode record = .ok values)
    (some : values.isEmpty = false) (ascending : table.Ascending) :
    ∃ after, updateEntity entity record session =
        (.ok (table.rows.filter fun row => decide (row.identity = record.identity)).length, after) ∧
      Moves table { table with
        rows := table.rows.map (Table.overwriteAt table.definition record.identity values) }
          session after := by
  obtain ⟨found, given, -, -, named, identified⟩ := ready.adapter_run
  have fits : values.Fits table.definition := ready.defined ▸ ready.made.fits_of_encode encoded
  have ran := Connection.updateRows_run ready.holds fits some
    (Connection.asks_byIdentity ready.holds.free record.identity)
  rw [Table.update_identity ascending ready.holds.distinct fits] at ran
  let changed : Table := { table with
    rows := table.rows.map (Table.overwriteAt table.definition record.identity values) }
  let text := updateText table.definition.name values.columns
    (.byIdentity table.definition.identity record.identity)
  refine ⟨noted session text _, ?_, moves_withTable ready.holds changed rfl text⟩
  unfold updateEntity
  rw [Action.bind_run, given, encoded]
  show Gateway.updateRows found.table values (.byIdentity found.identity record.identity) session = _
  rw [named, identified]
  exact Session.onStorage_run ran

/-- A record that is refused changes nothing. -/
theorem updateEntity_refused (ready : Ready entity compiled table session)
    {record : entity.Record} {fault : Error} (refused : entity.encode record = .error fault) :
    updateEntity entity record session = (.error fault, session) := by
  obtain ⟨found, given, -⟩ := ready.adapter_run
  unfold updateEntity
  rw [Action.bind_run, given, refused]
  rfl

/-- The row of an identity is removed, and no other row changes. -/
theorem delete_run (ready : Ready entity compiled table session) (identity : Int64) :
    ∃ after, delete entity.path (.byIdentity table.definition.identity identity) session =
        (.ok (table.rows.filter fun row => decide (row.identity = identity)).length, after) ∧
      Moves table { table with
        rows := table.rows.filter fun row => decide (row.identity ≠ identity) } session after := by
  obtain ⟨found, given, -, -, named, -⟩ := ready.adapter_run
  have ran := Connection.deleteRows_run ready.holds
    (Connection.asks_byIdentity ready.holds.free identity)
  rw [Table.delete_identity] at ran
  let changed : Table := { table with
    rows := table.rows.filter fun row => decide (row.identity ≠ identity) }
  let text := deleteText table.definition.name (.byIdentity table.definition.identity identity)
  refine ⟨noted session text _, ?_, moves_withTable ready.holds changed rfl text⟩
  unfold delete
  rw [Action.bind_run, given]
  show Gateway.deleteRows found.table _ session = _
  rw [named]
  exact Session.onStorage_run ran

/-! ## Searches -/

theorem decodeAll_run (entity : EntityType objects) (rows : List Row)
    (session : Session Connection) :
    decodeAll entity rows session = (rows.mapM entity.decode, session) := by
  unfold decodeAll
  cases rows.mapM entity.decode <;> rfl

/-- What the rows of a table that meet a condition are read as. -/
def recordsOf (entity : EntityType objects) (table : Table)
    (condition? : Option (Condition Place Cell)) : Except Error (List entity.Record) :=
  ((table.matching condition?).map (Table.entries table.definition)).mapM Connection.readRow >>=
    fun rows => rows.mapM entity.decode

/-- A search for the rows that a predicate asks for, in the order of identities or in none. -/
theorem queryTable_run (ready : Ready entity compiled table session) (order? : Option String)
    {predicate : Predicate} {placed? : Option (Condition Place Cell)}
    (asks : predicate.Asks table.definition placed?)
    (byIdentity : ∀ column ∈ order?, column = table.definition.identity)
    (ascending : (table.matching placed?).Pairwise fun a b => a.identity < b.identity)
    (whole : ∀ row ∈ table.matching placed?,
      row.cells.length = table.definition.columns.length) :
    ∃ after, queryTable entity predicate (order?.map quoteName) session =
        (recordsOf entity table placed?, after) ∧ Moves table table session after := by
  obtain ⟨found, given, -, same, named, -⟩ := ready.adapter_run
  have columns : found.compiled.selectedColumns =
      table.definition.identity :: table.definition.columnNames := by
    rw [same, ready.defined]
    exact Schema.selectedColumns_eq compiled
  let text := selectText table.definition.name
    (table.definition.identity :: table.definition.columnNames) predicate (order?.map quoteName)
  have ran : Gateway.queryRows (σ := Session Connection) table.definition.name
      (table.definition.identity :: table.definition.columnNames) predicate
        (order?.map quoteName) session =
      (((table.matching placed?).map (Table.entries table.definition)).mapM Connection.readRow,
        noted session text session.storage.database) :=
    Session.onStorage_run (Connection.queryRows_run ready.holds asks byIdentity ascending whole)
  refine ⟨noted session text session.storage.database, ?_, moves_noted ready.holds text⟩
  unfold queryTable
  rw [Action.bind_run, given]
  show (Gateway.queryRows found.table found.compiled.selectedColumns predicate
    (order?.map quoteName) >>= decodeAll entity) session = _
  rw [Action.bind_run, named, columns, ran, recordsOf]
  cases ((table.matching placed?).map (Table.entries table.definition)).mapM
      Connection.readRow with
  | error fault => rfl
  | ok rows => exact decodeAll_run entity rows _

/-- A search for the row with an identity, where there is at most one. -/
theorem findById_run (ready : Ready entity compiled table session) (identity : Int64)
    (ascending : (table.matching (some (Table.hasIdentity identity))).Pairwise
      fun a b => a.identity < b.identity)
    (whole : ∀ row ∈ table.matching (some (Table.hasIdentity identity)),
      row.cells.length = table.definition.columns.length) :
    ∃ after, findById entity identity session =
        (List.head? <$> recordsOf entity table (some (Table.hasIdentity identity)), after) ∧
      Moves table table session after := by
  obtain ⟨found, given, -, -, -, named⟩ := ready.adapter_run
  obtain ⟨after, ran, moves⟩ := queryTable_run ready none
    (Connection.asks_byIdentity ready.holds.free identity) (by simp) ascending whole
  refine ⟨after, ?_, moves⟩
  unfold findById
  rw [Action.bind_run, given]
  show (queryTable entity (.byIdentity found.identity identity) none >>=
    fun rows => pure rows.head?) session = _
  rw [Action.bind_run, named, show queryTable entity _ none session = _ from ran]
  cases recordsOf entity table (some (Table.hasIdentity identity)) <;> rfl

end Dispatcher

end EntityTables
