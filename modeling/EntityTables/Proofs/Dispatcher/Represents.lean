/-
# EntityTables.Proofs.Dispatcher.Represents — a ledger held in a table

The rows of a child type's table are the entries of a ledger, one for one and in order: each has the
identity of its entry and the cells of the record's values with the reference to its parent.

* `Represents` — a table holds a ledger.
* `Represents.withRow`, `.overwrite`, `.strike` — it still does after an addition, a change and a
  removal.
* `read_rows` — the records that rows are read as.
-/
import EntityTables.Proofs.Dispatcher.Ledger
import EntityTables.Proofs.Dispatcher.Reference

namespace EntityTables.Dispatcher

set_option autoImplicit false

open Sql Database

variable {objects : Objects} {entity : EntityType objects} {compiled : Compiled} {table : Table}
  {reference : String} {ledger : Ledger entity}

/-- A row holds an entry: the cells of its record, and the reference to its parent. -/
def Entry.IsRow (definition : TableDefinition) (reference : String) (entry : Entry entity)
    (row : StoredRow) : Prop :=
  row.identity = entry.identity ∧ ∃ values, entity.encode entry.record = .ok values ∧
    row.cells = (values.withParent reference entry.parent?).cells definition

/-- The rows of a table are the entries of a ledger, and the table gave the same identities. Every
record can be stored. -/
structure Represents (reference : String) (ledger : Ledger entity) (table : Table) : Prop where
  sound : ledger.Sound
  highest : table.highest = ledger.last
  rows : List.Forall₂ (Entry.IsRow table.definition reference) ledger.entries table.rows
  storable : ∀ entry ∈ ledger.entries, entry.record.Storable .table

/-- A new table has no entries. -/
theorem represents_empty (definition : TableDefinition) :
    Represents reference (Ledger.empty : Ledger entity) (.empty definition) :=
  ⟨Ledger.sound_empty, rfl, .nil, fun _ member => nomatch member⟩

namespace Represents

theorem identities (represents : Represents reference ledger table) :
    table.rows.map StoredRow.identity = ledger.entries.map Entry.identity := by
  have same : List.Forall₂ (fun (entry : Entry entity) (row : StoredRow) =>
      row.identity = entry.identity) ledger.entries table.rows :=
    represents.rows.imp fun _ _ holds => holds.1
  rw [← List.forall₂_eq_eq_eq, List.forall₂_map_left_iff, List.forall₂_map_right_iff]
  exact same.flip

theorem ascending (represents : Represents reference ledger table) : table.Ascending := by
  have sorted := represents.sound.ascending
  rw [← represents.identities] at sorted
  exact List.pairwise_map.mp sorted

theorem whole (represents : Represents reference ledger table) :
    ∀ row ∈ table.rows, row.cells.length = table.definition.columns.length := by
  intro row member
  obtain ⟨entry, -, -, values, -, cells⟩ := exists_left_of_mem represents.rows member
  rw [cells]
  exact RowValues.length_cells _ _

/-- The table gives the identity that the ledger gives. -/
theorem freshIdentity_eq (represents : Represents reference ledger table) :
    table.freshIdentity.mapError Error.ofSql = ledger.fresh := by
  have below : ∀ row ∈ table.rows, row.identity ≤ table.highest := by
    intro row member
    have among := List.mem_map_of_mem (f := StoredRow.identity) member
    rw [represents.identities] at among
    rw [represents.highest]
    exact represents.sound.le_last (represents.sound.entries.subset among)
  rw [Table.freshIdentity_of_le below, represents.highest, Ledger.fresh]
  split <;> rfl

/-! ## What is written -/

/-- A row behind all others is an entry behind all others. -/
theorem withRow (represents : Represents reference ledger table) {parent? : Option Int64}
    {record : entity.Record} {values : RowValues} (encoded : entity.encode record = .ok values)
    (storable : record.Storable .table) {identity : Int64} {grown : Ledger entity}
    (added : ledger.add parent? record = .ok (identity, grown)) :
    Represents reference grown (table.withRow identity (values.withParent reference parent?)) := by
  have sound := represents.sound.add added
  obtain ⟨-, -, rfl⟩ := Ledger.add_eq_ok_iff.mp added
  refine ⟨sound, ?_, ?_, ?_⟩
  · simp [Ledger.last, Table.withRow]
  · refine List.rel_append represents.rows (.cons ⟨rfl, values, encoded, rfl⟩ .nil)
  · intro entry member
    rcases List.mem_append.mp member with before | new
    · exact represents.storable entry before
    · rw [List.mem_singleton.mp new]
      exact storable

/-- An entry overwritten is its row overwritten, but for the reference to its parent. -/
theorem overwrite (represents : Represents reference ledger table)
    (made : entity.IsFor compiled.schema compiled) (refers : compiled.RefersBy reference)
    {record : entity.Record} {values : RowValues} (encoded : entity.encode record = .ok values)
    (storable : record.Storable .table) :
    Represents reference (ledger.write record) { table with
      rows := table.rows.map (Table.overwriteAt table.definition record.identity values) } := by
  refine ⟨represents.sound.write record, represents.highest, ?_, ?_⟩
  · show List.Forall₂ _ (ledger.entries.map _) (table.rows.map _)
    rw [List.forall₂_map_left_iff, List.forall₂_map_right_iff]
    refine represents.rows.imp ?_
    rintro entry row ⟨same, old, written, cells⟩
    unfold Table.overwriteAt
    by_cases named : entry.identity = record.identity
    · -- the reference is not among the record's own columns, so the row keeps it
      rw [if_pos named, if_pos (same.trans named)]
      refine ⟨same, values, encoded, ?_⟩
      show values.overwrite table.definition row.cells = _
      rw [cells]
      exact made.overwrite_withParent refers written encoded table.definition entry.parent?
    · rw [if_neg named, if_neg fun other => named (same.symm.trans other)]
      exact ⟨same, old, written, cells⟩
  · intro entry member
    obtain ⟨old, among, rfl⟩ := List.mem_map.mp member
    split
    · exact storable
    · exact represents.storable old among

/-- An entry struck out is its row removed. -/
theorem strike (represents : Represents reference ledger table) (identity : Int64) :
    Represents reference (ledger.strike identity) { table with
      rows := table.rows.filter fun row => decide (row.identity ≠ identity) } := by
  refine ⟨represents.sound.strike identity, represents.highest, ?_, ?_⟩
  · refine List.rel_filter ?_ represents.rows
    rintro entry row ⟨same, -⟩
    show decide (entry.identity ≠ identity) = true ↔ decide (row.identity ≠ identity) = true
    rw [same]
  · intro entry member
    exact represents.storable entry (List.mem_of_mem_filter member)

theorem countOf_eq (represents : Represents reference ledger table) (identity : Int64) :
    (table.rows.filter fun row => decide (row.identity = identity)).length =
      ledger.countOf identity := by
  refine (List.Forall₂.length_eq (List.rel_filter ?_ represents.rows)).symm
  rintro entry row ⟨same, -⟩
  show decide (entry.identity = identity) = true ↔ decide (row.identity = identity) = true
  rw [same]

end Represents

/-! ## What is read -/

section Read

variable (made : entity.IsFor compiled.schema compiled) (refers : compiled.RefersBy reference)
  (defined : table.definition = compiled.schema.tableOf compiled.plans)
  (distinct : table.definition.Distinct)

include made refers defined distinct

/-- The row of an entry is read as the entry's record. -/
theorem Entry.IsRow.read {entry : Entry entity} {row : StoredRow}
    (holds : entry.IsRow table.definition reference row)
    (storable : entry.record.Storable .table) :
    ∃ read found, Connection.readRow (Table.entries table.definition row) = .ok read ∧
      entity.decode read = .ok found ∧ entry.record.Alike .table found := by
  obtain ⟨identity, cells⟩ := row
  obtain ⟨same, values, encoded, rfl⟩ := holds
  obtain rfl : identity = entry.identity := same
  have suits : (values.withParent reference entry.parent?).Suits table.definition := by
    rw [defined] at distinct ⊢
    exact made.suits_withParent refers encoded distinct entry.parent?
  let read := (values.withParent reference entry.parent?).readBack table.definition entry.identity
  have named : read.value compiled.schema.identity = .ok (.integer entry.identity) := by
    have identified : table.definition.identity = compiled.schema.identity := by rw [defined]; rfl
    rw [← identified]
    exact RowValues.value_readBack_identity entry.identity
  have restores : ∀ plan ∈ compiled.mapped, EntityType.IsFor.Restores entity
      (fun type => type.Alike .table) read entry.fields plan := by
    intro plan member type a known found
    obtain ⟨value, among, stored⟩ := made.entry_of_encode encoded member found
    have kept : plan.column.name ∈ table.definition.columnNames := by
      rw [defined]
      exact EntityType.IsFor.mem_table_of_mapped member
    have given : (values.withParent reference entry.parent?).get? plan.column.name = some value := by
      rw [RowValues.get?_withParent_of_ne (refers.apart plan member)]
      exact RowValues.get?_eq_some_iff.mpr among
    obtain ⟨b, restored, alike⟩ :=
      FieldType.restore_carried (storable.field found) stored plan.column.name
    have back := RowValues.value_readBack_of_get? distinct entry.identity kept given
    exact ⟨value.held, b, back, restored, alike⟩
  obtain ⟨found, decoded, identified, alike⟩ := made.decode_spec named restores fun _ _ => rfl
  exact ⟨read, found, RowValues.readRow_entries suits entry.identity, decoded, identified, alike⟩

/-- The rows of entries are read as their records. -/
theorem read_rows {entries : List (Entry entity)} {rows : List StoredRow}
    (hold : List.Forall₂ (Entry.IsRow table.definition reference) entries rows)
    (storable : ∀ entry ∈ entries, entry.record.Storable .table) :
    ∃ found, ((rows.map (Table.entries table.definition)).mapM Connection.readRow >>=
        fun read => read.mapM entity.decode) = .ok found ∧
      List.Forall₂ (fun entry found => entry.record.Alike .table found) entries found := by
  induction hold with
  | nil => exact ⟨[], rfl, .nil⟩
  | @cons entry row entries rows first _ ih =>
    obtain ⟨read, record, given, decoded, alike⟩ :=
      first.read made refers defined distinct (storable entry List.mem_cons_self)
    obtain ⟨found, others, each⟩ := ih fun other member => storable other (.tail _ member)
    obtain ⟨reads, behind, made⟩ := bind_eq_ok_iff.mp others
    refine ⟨record :: found, ?_, .cons alike each⟩
    rw [List.map_cons, List.mapM_cons, given, bind_eq_ok_iff]
    refine ⟨read :: reads, ?_, ?_⟩
    · simp [behind, bind, Except.bind, pure, Except.pure]
    · simp [decoded, made, bind, Except.bind, pure, Except.pure]

end Read

end EntityTables.Dispatcher
