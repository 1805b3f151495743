/-
# EntityTables.Proofs.Dispatcher.Refinement — typed operations keep a ledger

Whatever is called on the records of a child type whose table was just created, in whatever order,
answers as a ledger does, and whatever is then asked for finds the entries of the ledger. A record
that is read counts as the one that was written: its numbers are equal, though zero may have lost
its sign, and its relations are as in every new record.

* `Agrees` — the searches of a session find the entries of a ledger.
* `Advances` — what a call does to the rows; `step_advances` — what it does to the ledger.
* `runAll_agrees` — any calls on a new table.
-/
import EntityTables.Proofs.Dispatcher.Represents
import EntityTables.Proofs.Gateway.Failure

namespace EntityTables.Dispatcher

set_option autoImplicit false

open Sql Database

variable {objects : Objects} {entity : EntityType objects} {compiled : Compiled}
  {table changed : Table} {reference : String} {ledger grown : Ledger entity}
  {session after : Session Connection}

/-! ## Searches -/

/-- Every search finds the entries of a ledger: by identity the one that has it, in the order of
identities all of them, and for a parent those that were made for it. -/
structure Agrees (ledger : Ledger entity) (session : Session Connection) : Prop where
  found : ∀ identity, ∃ found? last, findById entity identity session = (.ok found?, last) ∧
    Option.Rel (fun entry found => entry.record.Alike .table found) (ledger.find? identity) found?
  listed : ∃ found last, queryTable entity .all (some (quoteName entity.code.identity)) session =
      (.ok found, last) ∧
    List.Forall₂ (fun entry found => entry.record.Alike .table found) ledger.entries found
  children : ∀ parent, ∃ found last, queryChildren entity parent session = (.ok found, last) ∧
    List.Forall₂ (fun entry found => entry.record.Alike .table found) (ledger.children parent) found

/-- The first of two lists side by side. -/
theorem rel_head? {α β : Type} {R : α → β → Prop} {as : List α} {bs : List β}
    (related : List.Forall₂ R as bs) : Option.Rel R as.head? bs.head? := by
  cases related with
  | nil => exact .none
  | cons first _ => exact .some first

section Searches

variable (ready : Ready entity compiled table session)
  (refers : compiled.RefersBy reference) (represents : Represents reference ledger table)

include ready refers represents

/-- Where the rows that meet a condition are those of some entries, these are read. -/
theorem read_matching {condition? : Option (Condition Place Cell)} {kept : Entry entity → Bool}
    (same : ∀ entry row, entry.IsRow table.definition reference row →
      row.meetsAll table.definition condition? = kept entry) :
    ∃ found, recordsOf entity table condition? = .ok found ∧
      List.Forall₂ (fun entry found => entry.record.Alike .table found)
        (ledger.entries.filter kept) found := by
  have rows : List.Forall₂ (Entry.IsRow table.definition reference)
      (ledger.entries.filter kept) (table.matching condition?) := by
    refine List.rel_filter ?_ represents.rows
    intro entry row holds
    show kept entry = true ↔ row.meetsAll table.definition condition? = true
    rw [same entry row holds]
  exact read_rows ready.made refers ready.defined ready.holds.distinct rows
    fun entry member => represents.storable entry (List.mem_of_mem_filter member)

/-- The searches of a session find the entries of the ledger that its table holds. -/
theorem Represents.agrees : Agrees ledger session := by
  have ascending (condition? : Option (Condition Place Cell)) :=
    represents.ascending.matching condition?
  have whole (condition? : Option (Condition Place Cell)) :
      ∀ row ∈ table.matching condition?, row.cells.length = table.definition.columns.length :=
    fun row member => represents.whole row (List.mem_of_mem_filter member)
  refine ⟨?_, ?_, ?_⟩
  · intro identity
    have same (entry : Entry entity) (row : StoredRow)
        (holds : entry.IsRow table.definition reference row) :
        row.meetsAll table.definition (some (Table.hasIdentity identity)) =
          decide (entry.identity = identity) := by
      rw [Table.meets_hasIdentity, holds.1]
    obtain ⟨found, read, alike⟩ := read_matching ready refers represents same
    obtain ⟨last, ran, -⟩ := findById_run ready identity (ascending _) (whole _)
    refine ⟨found.head?, last, ?_, ?_⟩
    · rw [ran, read]
      rfl
    · rw [Ledger.find?, ← List.head?_filter]
      exact rel_head? alike
  · have same (entry : Entry entity) (row : StoredRow)
        (_ : entry.IsRow table.definition reference row) :
        row.meetsAll table.definition none = true := rfl
    obtain ⟨found, read, alike⟩ := read_matching ready refers represents same
    obtain ⟨last, ran, -⟩ := queryTable_run ready (some table.definition.identity) .all (by simp)
      (ascending none) (whole none)
    rw [List.filter_true] at alike
    refine ⟨found, last, ?_, alike⟩
    rw [ready.identity_eq, ← read]
    exact ran
  · intro parent
    have same (entry : Entry entity) (row : StoredRow)
        (holds : entry.IsRow table.definition reference row) :
        row.meetsAll table.definition (some (isChildOf table.definition reference parent)) =
          decide (entry.parent? = some parent) := by
      obtain ⟨identity, cells⟩ := row
      obtain ⟨-, values, encoded, rfl⟩ := holds
      exact ready.made.meets_reference refers encoded ready.defined ready.holds.distinct identity
        entry.parent? parent
    obtain ⟨found, read, alike⟩ := read_matching ready refers represents same
    obtain ⟨last, ran, -⟩ := queryChildren_run ready refers parent (ascending _) (whole _)
    refine ⟨found, last, ?_, alike⟩
    rw [ran, read]

end Searches

/-! ## Calls -/

/-- What a call does to a session whose table holds a ledger: the table holds the ledger after the
call, and every row stays but for that of the identity that the call names. -/
structure Advances (reference : String) (named? : Option Int64) (grown : Ledger entity)
    (table changed : Table) (session after : Session Connection) : Prop where
  moves : Moves table changed session after
  represents : Represents reference grown changed
  spared : ∀ row ∈ table.rows, named? ≠ some row.identity → row ∈ changed.rows

section Calls

variable (ready : Ready entity compiled table session)
  (refers : compiled.RefersBy reference) (represents : Represents reference ledger table)

include ready represents

/-- A call that changes nothing. -/
theorem advances_refl (named? : Option Int64) :
    Advances reference named? ledger table table session session :=
  ⟨Moves.refl ready.holds, represents, fun _ member _ => member⟩

include refers

/-- The addition of a record's values and the reference to its parent. -/
theorem insertRow_advances (parent? : Option Int64) {record : entity.Record} {values : RowValues}
    (encoded : entity.encode record = .ok values) (storable : record.Storable .table) :
    ∃ after changed, Gateway.insertRow table.definition.name
        (values.withParent reference parent?) session =
          ((ledger.add parent? record).map Prod.fst, after) ∧
      Advances reference none (ledger.enter parent? record).2 table changed session after := by
  have fits : (values.withParent reference parent?).Fits table.definition := by
    rw [ready.defined]
    exact ready.made.fits_withParent refers encoded parent?
  have ran := insertValues_run ready fits
  have fresh := represents.freshIdentity_eq
  cases given : table.freshIdentity with
  | error fault =>
    rw [given] at ran fresh
    obtain ⟨after, ran, moves⟩ := ran
    have refused : ledger.add parent? record = .error (.ofSql fault) := by
      rw [Ledger.add, encoded, ← fresh]
      rfl
    rw [Ledger.enter, refused]
    exact ⟨after, table, ran, moves, represents, fun _ member _ => member⟩
  | ok identity =>
    rw [given] at ran fresh
    obtain ⟨after, ran, moves⟩ := ran
    have entered : ledger.add parent? record = .ok (identity, _) :=
      Ledger.add_eq_ok_iff.mpr ⟨⟨values, encoded⟩, fresh.symm, rfl⟩
    rw [Ledger.enter, entered]
    refine ⟨after, _, ran, moves, represents.withRow encoded storable entered, ?_⟩
    exact fun _ member _ => List.mem_append_left _ member

/-- A call that adds the values of one record. -/
theorem enter_advances {parent? : Option Int64} {record : entity.Record}
    (storable : record.Storable .table) {action : Action (Session Connection) Int64}
    (refused : ∀ fault, entity.encode record = .error fault →
      action session = (.error fault, session))
    (entered : ∀ values, entity.encode record = .ok values → action session =
      Gateway.insertRow table.definition.name (values.withParent reference parent?) session) :
    ∃ after changed, (action >>= fun identity => pure (Answer.made identity)) session =
        ((ledger.enter parent? record).1, after) ∧
      Advances reference none (ledger.enter parent? record).2 table changed session after := by
  cases encoded : entity.encode record with
  | error fault =>
    have stays : ledger.add parent? record = .error fault := by rw [Ledger.add, encoded]
    rw [Action.bind_run, refused fault encoded, Ledger.enter, stays]
    exact ⟨session, table, rfl, advances_refl ready represents none⟩
  | ok values =>
    obtain ⟨after, changed, ran, advances⟩ :=
      insertRow_advances ready refers represents parent? encoded storable
    refine ⟨after, changed, ?_, advances⟩
    rw [Action.bind_run, entered values encoded, ran, Ledger.enter]
    cases ledger.add parent? record <;> rfl

/-- A change of a record. -/
theorem updateEntity_advances {record : entity.Record} (storable : record.Storable .table) :
    ∃ after changed, (updateEntity entity record >>= fun count =>
        pure (Answer.counted count)) session = ((ledger.overwrite record).1, after) ∧
      Advances reference (some record.identity) (ledger.overwrite record).2 table changed session
        after := by
  cases encoded : entity.encode record with
  | error fault =>
    have stays : ledger.overwrite record = (.error fault, ledger) := by
      rw [Ledger.overwrite, encoded]
    rw [Action.bind_run, updateEntity_refused ready encoded, stays]
    exact ⟨session, table, rfl, advances_refl ready represents _⟩
  | ok values =>
    have written := represents.overwrite ready.made refers encoded storable
    cases empty : values.isEmpty with
    | true =>
      -- no statement is run, and the entry that is overwritten has the same row as before
      have stays : ledger.overwrite record = (.ok (.counted 0), ledger.write record) := by
        simp [Ledger.overwrite, encoded, empty]
      have same : table.rows.map (Table.overwriteAt table.definition record.identity values) =
          table.rows := by
        refine (List.map_congr_left fun row member => ?_).trans (List.map_id' table.rows)
        rw [Table.overwriteAt, RowValues.overwrite_of_isEmpty empty (represents.whole row member)]
        split <;> rfl
      rw [same] at written
      rw [Action.bind_run, updateEntity_empty ready encoded empty, stays]
      exact ⟨session, table, rfl, Moves.refl ready.holds, written, fun _ member _ => member⟩
    | false =>
      have counts : ledger.overwrite record =
          (.ok (.counted (ledger.countOf record.identity)), ledger.write record) := by
        simp [Ledger.overwrite, encoded, empty]
      obtain ⟨after, ran, moves⟩ := updateEntity_run ready encoded empty represents.ascending
      rw [Action.bind_run, ran, represents.countOf_eq, counts]
      refine ⟨after, _, rfl, moves, written, ?_⟩
      intro row member apart
      refine List.mem_map.mpr ⟨row, member, if_neg fun same => apart ?_⟩
      rw [same]

omit refers

/-- The removal of a record. -/
theorem delete_advances (identity : Int64) :
    ∃ after changed, (delete entity.path (.byIdentity entity.code.identity identity) >>=
        fun count => pure (Answer.counted count)) session =
          (.ok (.counted (ledger.countOf identity)), after) ∧
      Advances reference (some identity) (ledger.strike identity) table changed session after := by
  obtain ⟨after, ran, moves⟩ := delete_run ready identity
  rw [ready.identity_eq, Action.bind_run, ran, represents.countOf_eq]
  refine ⟨after, _, rfl, moves, represents.strike identity, ?_⟩
  intro row member apart
  refine List.mem_filter.mpr ⟨member, decide_eq_true fun same => apart ?_⟩
  rw [same]

end Calls

/-! ## Records that count as a whole -/

/-- The addition of one of several records. -/
def addOne (entity : EntityType objects) (name : String) (record : entity.Record) :
    Action (Session Connection) Unit := do
  let values ← Action.ofExcept (entity.encode record)
  let _ ← Gateway.insertRow (σ := Session Connection) name values

/-- Records added one after the other, up to the first that is refused. -/
theorem addEach_run (ready : Ready entity compiled table session)
    (refers : compiled.RefersBy reference) (represents : Represents reference ledger table)
    {records : List entity.Record} (storable : ∀ record ∈ records, record.Storable .table) :
    ∃ after changed, (records.forM (addOne entity table.definition.name)) session =
        ((ledger.addAll records).map fun _ => (), after) ∧
      Moves table changed session after ∧
        ∀ grown, ledger.addAll records = .ok grown →
          Advances reference none grown table changed session after := by
  -- by induction on the records: where one is refused, those before it are already in the table
  induction records generalizing ledger table session with
  | nil =>
    refine ⟨session, table, rfl, Moves.refl ready.holds, ?_⟩
    rintro grown ⟨⟩
    exact advances_refl ready represents none
  | cons record rest ih =>
    have one := storable record List.mem_cons_self
    have parts : (record :: rest).forM (addOne entity table.definition.name) =
        (addOne entity table.definition.name record >>= fun _ =>
          rest.forM (addOne entity table.definition.name)) := rfl
    rw [parts, Action.bind_run]
    cases encoded : entity.encode record with
    | error fault =>
      have stays : ledger.add none record = .error fault := by rw [Ledger.add, encoded]
      have refused : ledger.addAll (record :: rest) = .error fault := by rw [Ledger.addAll, stays]
      refine ⟨session, table, ?_, Moves.refl ready.holds, ?_⟩
      · rw [refused, addOne, encoded]
        rfl
      · intro grown added
        rw [refused] at added
        cases added
    | ok values =>
      obtain ⟨between, middle, ran, advances⟩ :=
        insertRow_advances ready refers represents none encoded one
      have first : addOne entity table.definition.name record session =
          ((ledger.add none record).map fun _ => (), between) := by
        rw [addOne, encoded]
        show (Gateway.insertRow table.definition.name values >>= fun _ => pure ()) session = _
        rw [Action.bind_run, show Gateway.insertRow table.definition.name values session = _ from ran]
        cases ledger.add none record <;> rfl
      rw [first]
      cases added : ledger.add none record with
      | error fault =>
        have refused : ledger.addAll (record :: rest) = .error fault := by
          rw [Ledger.addAll, added]
        refine ⟨between, middle, by rw [refused]; rfl, advances.moves, ?_⟩
        intro grown whole
        rw [refused] at whole
        cases whole
      | ok made =>
        have becomes : (ledger.enter none record).2 = made.2 := by rw [Ledger.enter, added]
        have goesOn : ledger.addAll (record :: rest) = made.2.addAll rest := by
          rw [Ledger.addAll, added]
        obtain ⟨after, changed, others, moves, whole⟩ := ih (ready.moves advances.moves)
          (becomes ▸ advances.represents) fun other member => storable other (.tail _ member)
        rw [advances.moves.defined] at others
        refine ⟨after, changed, by rw [goesOn]; exact others, advances.moves.trans moves, ?_⟩
        intro grown added
        rw [goesOn] at added
        have last := whole grown added
        exact ⟨advances.moves.trans moves, last.represents, fun row member apart =>
          last.spared row (advances.spared row member apart) apart⟩

/-- Records are added in a transaction of their own. -/
theorem insertAll_eq (ready : Ready entity compiled table session)
    (records : List entity.Record) :
    insertAll entity records session =
      Gateway.transaction (Session.addEach table.definition.name entity.encode records) session := by
  obtain ⟨found, given, -, -, named, -⟩ := ready.adapter_run
  unfold insertAll
  rw [Action.bind_run, given, ← named]
  rfl

/-- Records are added as a whole or not at all; without a transaction, none is. -/
theorem insertAll_advances (ready : Ready entity compiled table session)
    (refers : compiled.RefersBy reference) (represents : Represents reference ledger table)
    {records : List entity.Record} (storable : ∀ record ∈ records, record.Storable .table) :
    ∃ after changed, (insertAll entity records >>= fun count =>
        pure (Answer.counted count)) session =
          ((ledger.enterAll session.storage.saved?.isSome records).1, after) ∧
      Advances reference none (ledger.enterAll session.storage.saved?.isSome records).2 table changed
        session after := by
  rw [Action.bind_run, insertAll_eq ready, Session.transaction_eq (Session.addEach_keeps _ _ _)]
  cases saved : session.storage.saved? with
  | some database => exact ⟨session, table, rfl, advances_refl ready represents none⟩
  | none =>
    have standing : Ready entity compiled table session.opened :=
      ⟨ready.known, ready.made, ready.holds, ready.defined⟩
    obtain ⟨worked, changed, ran, moves, whole⟩ :=
      addEach_run standing refers represents storable
    have done : Session.addEach table.definition.name entity.encode records session.opened =
        ((ledger.addAll records).map fun _ => records.length, worked) := by
      show (records.forM (addOne entity table.definition.name) >>= fun _ =>
        pure records.length) session.opened = _
      rw [Action.bind_run, ran]
      cases ledger.addAll records <;> rfl
    simp only [done, Option.isSome_none]
    cases added : ledger.addAll records with
    | error fault =>
      have stays : ledger.enterAll false records = (.error fault, ledger) := by
        simp [Ledger.enterAll, added]
      rw [stays]
      -- what was added before the refusal is gone with the database as it was
      refine ⟨worked.ended session.storage.database, table, rfl, ?_, represents,
        fun _ member _ => member⟩
      exact ⟨moves.registry, saved.symm, rfl, ready.holds, fun _ _ => rfl⟩
    | ok grown =>
      have becomes : ledger.enterAll false records = (.ok (.counted records.length), grown) := by
        simp [Ledger.enterAll, added]
      have advances := whole grown added
      rw [becomes]
      refine ⟨worked.ended worked.storage.database, changed, rfl, ?_, advances.represents,
        advances.spared⟩
      exact ⟨moves.registry, saved.symm, moves.defined, moves.holds, moves.others⟩

/-! ## Any call -/

/-- A call does to the rows of the table what it does to the ledger. -/
theorem step_advances (ready : Ready entity compiled table session)
    (refers : compiled.RefersBy reference) (represents : Represents reference ledger table)
    (call : Call entity) (storable : ∀ record ∈ call.records, record.Storable .table) :
    ∃ after changed,
      call.run session = ((ledger.step session.storage.saved?.isSome call).1, after) ∧
      Advances reference call.named? (ledger.step session.storage.saved?.isSome call).2 table
        changed session after := by
  cases call with
  | insert record =>
    have one := storable record List.mem_cons_self
    exact enter_advances ready refers represents one (fun _ => insert_refused ready)
      fun _ => insert_eq ready
  | insertAll records => exact insertAll_advances ready refers represents storable
  | insertChild parent record =>
    have one := storable record List.mem_cons_self
    exact enter_advances ready refers represents one
      (fun _ refused => insertChild_refused ready refers refused parent)
      fun _ encoded => insertChild_eq ready refers encoded parent
  | updateEntity record =>
    have one := storable record List.mem_cons_self
    exact updateEntity_advances ready refers represents one
  | delete identity => exact delete_advances ready represents identity

/-- Any calls answer as on the ledger, and leave its entries in the table. -/
theorem runAll_represents (ready : Ready entity compiled table session)
    (refers : compiled.RefersBy reference) (represents : Represents reference ledger table)
    {calls : List (Call entity)}
    (storable : ∀ call ∈ calls, ∀ record ∈ call.records, record.Storable .table) :
    ∃ after changed,
      Call.runAll calls session = ((ledger.runAll session.storage.saved?.isSome calls).1, after) ∧
      Moves table changed session after ∧
      Represents reference (ledger.runAll session.storage.saved?.isSome calls).2 changed := by
  -- by induction on the calls, carried by the table that stands and holds the ledger so far
  induction calls generalizing ledger table session with
  | nil => exact ⟨session, table, rfl, Moves.refl ready.holds, represents⟩
  | cons call rest ih =>
    obtain ⟨between, middle, ran, advances⟩ :=
      step_advances ready refers represents call (storable call List.mem_cons_self)
    obtain ⟨after, changed, others, moves, last⟩ := ih (ready.moves advances.moves)
      advances.represents fun other member => storable other (.tail _ member)
    rw [advances.moves.saved] at others last
    refine ⟨after, changed, ?_, advances.moves.trans moves, last⟩
    simp only [Call.runAll, ran, others, Ledger.runAll_cons]

/-- A call neither changes nor removes a row of a table but that of the identity it names. -/
def Call.Spares (name : String) (call : Call entity) (session : Session Connection) : Prop :=
  ∃ table changed, session.storage.database.table name = .ok table ∧
    (call.run session).2.storage.database.table name = .ok changed ∧
    ∀ row ∈ table.rows, call.named? ≠ some row.identity → row ∈ changed.rows

/-- Once the table of a derived child type was created, any calls on its records answer as those on
an empty ledger, and all searches find the entries of that ledger. Every identity is above all that
were given before, no call touches a row that it does not name, and no other table changes. -/
theorem runAll_agrees {item : Source.Item} {derived : Compiled} {path parent : String}
    {parentPath? : Option String} {start : Session Connection}
    (made : Derive.derive item = .ok derived) (distinct : item.FieldsDistinct)
    (child : derived.schema.parent? = some parent)
    (typed : EntityType.ofCompiled? derived path parentPath? = some entity)
    (coherent : start.registry.Coherent)
    (registered : start.registry.find? path = some entity.toMapping)
    (created : createTable path start = (.ok (), session)) {calls : List (Call entity)}
    (storable : ∀ call ∈ calls, ∀ record ∈ call.records, record.Storable .table) :
    let run := (Ledger.empty : Ledger entity).runAll start.storage.saved?.isSome calls
    ∃ after, Call.runAll calls session = (run.1, after) ∧ Agrees run.2 after ∧
      run.2.given.Pairwise (· < ·) ∧ (run.1.filterMap Answer.given?).Pairwise (· < ·) ∧
      (∀ next : Call entity, (∀ record ∈ next.records, record.Storable .table) →
        next.Spares (EntityTables.tableName path) after) ∧
      ∀ name, sameName (EntityTables.tableName path) name = false →
        after.storage.database.table name = start.storage.database.table name := by
  have named : entity.path = path := by
    obtain ⟨layout, -, rfl⟩ := Option.map_eq_some_iff.mp typed
    rfl
  subst named
  obtain ⟨compiled, compiles, ready, saved, others⟩ := ready_of_createTable coherent registered
    (fun compiled compiles => (EntityType.isFor_of_derive made distinct typed compiles).1) created
  obtain ⟨isFor, family, marked⟩ := EntityType.isFor_of_derive made distinct typed compiles
  obtain ⟨stated, -⟩ := Mapping.compile_eq_ok_iff.mp compiles
  have table : compiled.schema.table = EntityTables.tableName entity.path :=
    congrArg EntityTables.tableName (Schema.target_of_build stated)
  rw [child, Option.map_some] at family
  have refers := isFor.refersBy_of_markerLast marked family
  have empty : Represents (parentColumnName (parentPath?.getD parent))
      (Ledger.empty : Ledger entity) (.empty (compiled.schema.tableOf compiled.plans)) :=
    represents_empty _
  obtain ⟨after, changed, ran, moves, represents⟩ :=
    runAll_represents ready refers empty storable
  rw [saved] at ran represents
  have standing := ready.moves moves
  refine ⟨after, ran, represents.agrees standing refers, represents.sound.given,
    Ledger.answers_ascending _ calls, ?_, ?_⟩
  · intro next storable
    obtain ⟨last, final, stepped, advances⟩ :=
      step_advances standing refers represents next storable
    have name : changed.definition.name = EntityTables.tableName entity.path :=
      (congrArg TableDefinition.name standing.defined).trans table
    refine ⟨changed, final, ?_, ?_, advances.spared⟩
    · rw [← name]
      exact standing.holds.found
    · rw [stepped, ← name, ← advances.moves.defined]
      exact advances.moves.holds.found
  · intro name apart
    rw [← table] at apart
    rw [moves.others name apart, others name apart]

/-- The declaration of a child type with one column. -/
def noteItem : Source.Item :=
  let field (name type : String) : Source.Field :=
    ⟨.origin, [], name, .origin, .path none false [.mk type .none], .origin⟩
  { attributes := [⟨some "rowforge", .list [.leaf .origin (.word "child_of"),
      .leaf .origin (.punct '=' false), .leaf .origin (.word "Book")]⟩]
    name := "Note"
    namePosition := .origin
    parameters? := none
    shape := .named [field "id" "i64", field "pinned" "bool"] }

/-- The schema of the declaration. -/
def noteCompiled : Compiled :=
  let pinned := (Column.ofField "pinned" .boolean).withField "pinned"
  let schema := Schema.draft "Note" [.identity "id", .column pinned, .childOf "Book"]
  let plans := schema.columns.map fun column => ColumnPlan.mk column .integer .integer
  ⟨schema, schema.definition plans, plans⟩

/-- The type of the declaration. -/
def noteEntity : EntityType Objects.none :=
  let layout : Layout Objects.none := [("pinned", .plain .boolean)]
  { path := "library::Note", code := .ofCompiled noteCompiled, parentPath? := some "library::Book"
    layout, initial := Fields.initial layout }

/-- A child that is added and changed, and a record that is added and removed. -/
def noteCalls : List (Call noteEntity) :=
  [.insertChild 5 ⟨0, (false, ())⟩, .insert ⟨0, (false, ())⟩, .updateEntity ⟨1, (true, ())⟩,
    .delete 2]

/-- A child that was changed is the one child of its parent, beside a record that was removed. -/
theorem runAll_agrees_note :
    ∃ start session after last : Session Connection,
      createTable noteEntity.path start = (.ok (), session) ∧
      Call.runAll noteCalls session =
        ([.ok (.made 1), .ok (.made 2), .ok (.counted 1), .ok (.counted 1)], after) ∧
      queryChildren noteEntity 5 after = (.ok [⟨1, (true, ())⟩], last) := by
  let start : Session Connection := ⟨⟨[noteEntity.toMapping], []⟩, .empty⟩
  have done : (createTable "library::Note" start).1 = .ok () := by decide +kernel
  rcases created : createTable "library::Note" start with ⟨outcome, session⟩
  rw [created] at done
  obtain rfl : outcome = .ok () := done
  have distinct : noteItem.FieldsDistinct := by
    rintro fields ⟨⟩
    decide
  have coherent : start.registry.Coherent := fun _ member => nomatch member
  have storable : ∀ call ∈ noteCalls, ∀ record ∈ call.records, record.Storable .table := by
    intro call _ record _
    exact ⟨trivial, trivial⟩
  obtain ⟨after, ran, agrees, -⟩ := runAll_agrees
    (show Derive.derive noteItem = .ok noteCompiled from rfl) distinct
    (show noteCompiled.schema.parent? = some "Book" from rfl)
    (show EntityType.ofCompiled? noteCompiled "library::Note" (some "library::Book") =
      some noteEntity from rfl)
    coherent (show start.registry.find? "library::Note" = some noteEntity.toMapping from rfl)
    created storable
  have ledger : (Ledger.empty : Ledger noteEntity).runAll false noteCalls =
      ([.ok (.made 1), .ok (.made 2), .ok (.counted 1), .ok (.counted 1)],
        ⟨[⟨1, some 5, (true, ())⟩], [1, 2]⟩) := rfl
  have closed : start.storage.saved?.isSome = false := rfl
  rw [closed, ledger] at ran agrees
  obtain ⟨found, last, asked, alike⟩ := agrees.children 5
  obtain ⟨record, rest, first, none, rfl⟩ := List.forall₂_cons_left_iff.mp alike
  obtain rfl := List.forall₂_nil_left_iff.mp none
  obtain ⟨identity, pinned, behind⟩ := record
  obtain ⟨same, here, -⟩ := first
  obtain rfl : identity = 1 := same
  obtain rfl : true = pinned := here
  exact ⟨start, session, after, last, created, ran, asked⟩

end EntityTables.Dispatcher
