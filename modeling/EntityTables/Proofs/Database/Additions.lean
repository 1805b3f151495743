/-
# EntityTables.Proofs.Database.Additions — rows that come to a table

An addition gives a table one row and touches nothing else: the row holds the values that were given
for the columns, as the columns keep them, and its identity is the one that was given or else a new
one, above all that were there. Additions one after the other give a row each. Nothing is asked of
the table or of the values but that the additions succeed.

* `RowValues.Makes` — the row that some values make.
* `Table.Gains` — a table has gained a row for each of some values; `Gains.cons`, one more.
* `Database.GainsRow`, `Gains` — a database has, in the table of a name; `run_insert_eq_ok`,
  `Gains.cons`.
-/
import EntityTables.Proofs.Database.Statements

namespace EntityTables

set_option autoImplicit false

open Sql Database

/-! ## The row that some values make -/

namespace RowValues

/-- The first of some values by column name whose name means a place of a table. -/
def valueFor? (definition : TableDefinition) (place : Place) (entries : List (String × Value)) :
    Option Value :=
  (entries.find? fun entry => definition.place? entry.1 = some place).map Prod.snd

/-- The identity that some values give their row, if they do. Names may differ in case only, so
several can mean the identity: the last of them counts. -/
def explicitIdentity (definition : TableDefinition) (values : RowValues) :
    Except Fault (Option Int64) :=
  identityOf ((valueFor? definition .identity values.entries.reverse).elim .null Cell.ofValue)

/-- The cells that some values make, as the columns of a table keep them. A column without a value
is empty; of several names of a column, the first counts. -/
def keptCells (definition : TableDefinition) (values : RowValues) : List Cell :=
  definition.columns.zipIdx.map fun ((_, storage), index) =>
    storage.keep ((valueFor? definition (.stored index) values.entries).elim .null Cell.ofValue)

/-- Some values make a row of a table: each is for a column, the row holds all of them, and its
identity is the one they give, if they do. -/
structure Makes (definition : TableDefinition) (values : RowValues) (row : StoredRow) : Prop where
  named : ∀ name ∈ values.columns, (definition.place? name).isSome
  cells : row.cells = values.keptCells definition
  identity : values.explicitIdentity definition = .ok none ∨
    values.explicitIdentity definition = .ok (some row.identity)

end RowValues

namespace Database

variable {table middle changed : Table} {values : RowValues} {batch : List RowValues}
  {row : StoredRow} {made : List StoredRow}

/-- What values by place give for a place is what the values by name give for it. -/
theorem givenFor_eq {definition : TableDefinition} {entries : List (String × Value)}
    {placed : List (Place × Cell)}
    (each : List.Forall₂ (fun entry pair =>
      definition.place? entry.1 = some pair.1 ∧ pair.2 = Cell.ofValue entry.2) entries placed)
    (place : Place) :
    (givenFor placed place).getD .null =
      (RowValues.valueFor? definition place entries).elim .null Cell.ofValue := by
  induction each with
  | nil => rfl
  | @cons entry pair rest others first _ ih =>
    obtain ⟨found, same⟩ := first
    unfold givenFor RowValues.valueFor? at ih ⊢
    by_cases here : pair.1 = place
    · simp [found, here, same]
    · simpa [found, here] using ih

namespace Table

/-! ## One addition -/

/-- All that an addition does. -/
theorem insert_eq_ok {placed : List (Place × Cell)} {identity : Int64}
    (added : table.insert placed = .ok (identity, changed)) :
    table.newIdentity placed = .ok identity ∧ table.has identity = false ∧
      changed = { table with
        rows := putRow ⟨identity, table.newCells placed⟩ table.rows,
        highest := greater table.highest identity } := by
  obtain ⟨found, identified, rest⟩ := bind_eq_ok_iff.mp added
  split at rest
  · cases rest
  · next free =>
    cases rest
    exact ⟨identified, Bool.eq_false_iff.mpr free, rfl⟩

theorem putRow_perm (row : StoredRow) (rows : List StoredRow) :
    (putRow row rows).Perm (row :: rows) := by
  induction rows with
  | nil => exact .refl _
  | cons first rest ih =>
    unfold putRow
    split
    · exact .refl _
    · exact (ih.cons first).trans (.swap row first rest)

/-- The identity of a new row is the one given, or else above all that were there. -/
theorem newIdentity_eq_ok {placed : List (Place × Cell)} {identity : Int64} {cell : Cell}
    (given : (givenFor placed.reverse .identity).getD .null = cell)
    (identified : table.newIdentity placed = .ok identity) :
    identityOf cell = .ok (some identity) ∨
      identityOf cell = .ok none ∧ table.freshIdentity = .ok identity := by
  unfold newIdentity at identified
  rw [given] at identified
  obtain ⟨explicit?, known, rest⟩ := bind_eq_ok_iff.mp identified
  cases explicit? with
  | none => exact .inr ⟨known, rest⟩
  | some explicit =>
    cases rest
    exact .inl known

/-- A table has gained one row for each of some values, in their order, and nothing else has
changed. No identity is there twice, and a row that was given none has one above all before it. -/
structure Gains (table : Table) (batch : List RowValues) (made : List StoredRow)
    (changed : Table) : Prop where
  defined : changed.definition = table.definition
  rows : changed.rows.Perm (table.rows ++ made)
  makes : List.Forall₂ (RowValues.Makes table.definition) batch made
  free : ∀ row ∈ made, table.has row.identity = false
  distinct : (made.map StoredRow.identity).Nodup
  above : List.Forall₂ (fun values row =>
    values.explicitIdentity table.definition = .ok none →
      table.highest < row.identity ∧ ∀ old ∈ table.rows, old.identity < row.identity) batch made
  rising : (batch.zip made).Pairwise fun earlier later =>
    later.1.explicitIdentity table.definition = .ok none →
      earlier.2.identity < later.2.identity
  highest : changed.highest = made.foldl (fun high row => greater high row.identity) table.highest

/-- An addition of values by place, made of values by name, is a gain of one row. -/
theorem gains_of_insert {placed : List (Place × Cell)} {identity : Int64}
    (each : List.Forall₂ (fun entry pair =>
      table.definition.place? entry.1 = some pair.1 ∧ pair.2 = Cell.ofValue entry.2)
        values.entries placed)
    (added : table.insert placed = .ok (identity, changed)) :
    ∃ row, row.identity = identity ∧ table.Gains [values] [row] changed := by
  obtain ⟨identified, free, rfl⟩ := insert_eq_ok added
  have given := givenFor_eq (List.forall₂_reverse_iff.mpr each) .identity
  have known := newIdentity_eq_ok given identified
  have named : ∀ name ∈ values.columns, (table.definition.place? name).isSome := by
    intro name member
    obtain ⟨entry, among, rfl⟩ := List.mem_map.mp member
    obtain ⟨pair, -, found, -⟩ := exists_right_of_mem each among
    rw [found, Option.isSome_some]
  have cells : table.newCells placed = values.keptCells table.definition := by
    refine List.map_congr_left fun ((name, storage), index) _ => ?_
    exact congrArg storage.keep (givenFor_eq each (.stored index))
  have explicit : values.explicitIdentity table.definition = .ok none ∨
      values.explicitIdentity table.definition = .ok (some identity) :=
    known.elim .inr fun ⟨nothing, _⟩ => .inl nothing
  have above : values.explicitIdentity table.definition = .ok none →
      table.highest < identity ∧ ∀ old ∈ table.rows, old.identity < identity := by
    intro nothing
    obtain given | ⟨-, fresh⟩ := known
    · cases nothing.symm.trans given
    · exact lt_of_freshIdentity fresh
  refine ⟨⟨identity, table.newCells placed⟩, rfl, ?_⟩
  constructor
  case defined => rfl
  case rows => exact (putRow_perm _ _).trans (List.perm_append_singleton _ _).symm
  case makes => exact .cons ⟨named, cells, explicit⟩ .nil
  case free => simpa using free
  case distinct => simp
  case above => exact .cons above .nil
  case rising => simp
  case highest => rfl

/-! ## Additions one after the other -/

/-- A row gained before others. -/
theorem Gains.cons (first : table.Gains [values] [row] middle)
    (others : middle.Gains batch made changed) :
    table.Gains (values :: batch) (row :: made) changed := by
  have same := first.defined
  have among : ∀ old, old ∈ middle.rows ↔ old ∈ table.rows ∨ old = row := by
    intro old
    rw [first.rows.mem_iff, List.mem_append, List.mem_singleton]
  have higher : middle.highest = greater table.highest row.identity := first.highest
  have makes := others.makes
  have above := others.above
  have rising := others.rising
  rw [same] at makes above rising
  -- for the others, the first row is one of those that were there before them
  have behind : List.Forall₂ (fun values later =>
      values.explicitIdentity table.definition = .ok none →
        row.identity < later.identity ∧ table.highest < later.identity ∧
          ∀ old ∈ table.rows, old.identity < later.identity) batch made := by
    refine above.imp fun values later below nothing => ?_
    obtain ⟨highest, all⟩ := below nothing
    refine ⟨all row ((among row).mpr (.inr rfl)), ?_,
      fun old member => all old ((among old).mpr (.inl member))⟩
    rw [higher] at highest
    exact Int64.lt_of_le_of_lt (le_greater_left _ _) highest
  have unused : ∀ later ∈ made, ∀ old ∈ middle.rows, old.identity ≠ later.identity := by
    intro later member old known
    have free := List.any_eq_false.mp (others.free later member) old known
    simpa using free
  constructor
  case defined => exact others.defined.trans same
  case rows =>
    refine others.rows.trans ((first.rows.append_right made).trans ?_)
    rw [List.append_assoc]
    exact .refl _
  case makes => exact .cons (List.forall₂_cons.mp first.makes).1 makes
  case free =>
    intro later member
    rcases List.mem_cons.mp member with rfl | member
    · exact first.free _ List.mem_cons_self
    · refine List.any_eq_false.mpr fun old known => ?_
      simpa using unused later member old ((among old).mpr (.inl known))
  case distinct =>
    rw [List.map_cons, List.nodup_cons]
    refine ⟨fun twice => ?_, others.distinct⟩
    obtain ⟨later, member, same⟩ := List.mem_map.mp twice
    exact unused later member row ((among row).mpr (.inr rfl)) same.symm
  case above =>
    exact .cons (List.forall₂_cons.mp first.above).1
      (behind.imp fun _ _ below nothing => (below nothing).2)
  case rising =>
    refine .cons (fun later member nothing => ?_) rising
    exact ((List.forall₂_iff_zip.mp behind).2 member nothing).1
  case highest =>
    rw [others.highest, higher]
    rfl

end Table

/-! ## Additions to a database -/

variable {database before between after : Database} {name : String}

theorem newPlace_eq_ok_iff {column : String} {place : Place} :
    table.newPlace name column = .ok place ↔ table.definition.place? column = some place := by
  unfold Table.newPlace
  cases table.definition.place? column <;> simp

/-- A table in place of one of the same name and columns is there under its name. -/
theorem table_withTable (found : database.table name = .ok table)
    (same : changed.definition = table.definition) :
    (database.withTable name changed).table name = .ok changed := by
  have found := table_eq_ok_iff.mp found
  have named : table.isNamed name = true := List.find?_some found
  have itself : sameName changed.definition.name name = true := by rw [same]; exact named
  rw [table_eq_ok_iff, find?_withTable itself, found, Option.map_some, if_pos named]

/-- The last of two tables in one place counts. -/
theorem withTable_withTable (named : changed.isNamed name = true) (last : Table) :
    (database.withTable name changed).withTable name last = database.withTable name last := by
  unfold withTable
  simp only [List.map_map, Database.mk.injEq]
  refine List.map_congr_left fun other _ => ?_
  by_cases here : other.isNamed name <;> simp [here, named]

/-- A database has gained a row for each of some values in the table of a name, and nothing else has
changed. If there are no values, there need not be such a table. -/
def Gains (before : Database) (name : String) (batch : List RowValues) (after : Database) : Prop :=
  batch = [] ∧ after = before ∨
    ∃ table made changed, before.table name = .ok table ∧ table.Gains batch made changed ∧
      after = before.withTable name changed ∧ after.table name = .ok changed

/-- A database has gained a row in the table of a name, and nothing else has changed. -/
def GainsRow (before : Database) (name : String) (values : RowValues) (row : StoredRow)
    (after : Database) : Prop :=
  ∃ table changed, before.table name = .ok table ∧ table.Gains [values] [row] changed ∧
    after = before.withTable name changed ∧ after.table name = .ok changed

theorem GainsRow.gains (gained : before.GainsRow name values row after) :
    before.Gains name [values] after := by
  obtain ⟨table, changed, found, gains, becomes, there⟩ := gained
  exact .inr ⟨table, [row], changed, found, gains, becomes, there⟩

/-- An addition that is carried out is a gain of one row, whose identity it gives. -/
theorem run_insert_eq_ok {outcome : Outcome}
    (ran : before.run (.insert name (values.columns.map fun column => (column, .placeholder)))
      values.values = .ok (outcome, after)) :
    ∃ row, outcome = .inserted row.identity ∧ before.GainsRow name values row after := by
  unfold run at ran
  rw [Statement.bind_insert] at ran
  obtain ⟨table, found, ran⟩ := bind_eq_ok_iff.mp ran
  obtain ⟨placed, each, ran⟩ := bind_eq_ok_iff.mp ran
  obtain ⟨-, -, ran⟩ := bind_eq_ok_iff.mp ran
  obtain ⟨⟨identity, changed⟩, added, ran⟩ := bind_eq_ok_iff.mp ran
  cases ran
  rw [mapM_eq_ok_iff, RowValues.bound, List.forall₂_map_left_iff] at each
  have named : List.Forall₂ (fun entry pair =>
      table.definition.place? entry.1 = some pair.1 ∧ pair.2 = Cell.ofValue entry.2)
        values.entries placed := by
    refine each.imp fun entry pair made => ?_
    obtain ⟨place, found, rfl⟩ := map_eq_ok_iff.mp made
    exact ⟨newPlace_eq_ok_iff.mp found, rfl⟩
  obtain ⟨row, rfl, gains⟩ := Table.gains_of_insert named added
  exact ⟨row, rfl, table, changed, found, gains, rfl, table_withTable found gains.defined⟩

/-- A row gained before others. -/
theorem Gains.cons (first : before.Gains name [values] between)
    (others : between.Gains name batch after) : before.Gains name (values :: batch) after := by
  obtain ⟨nothing, -⟩ | ⟨table, one, middle, found, gained, becomes, there⟩ := first
  · cases nothing
  obtain ⟨row, rfl⟩ : ∃ row, one = [row] := by
    obtain ⟨row, rest, -, none, rfl⟩ := List.forall₂_cons_left_iff.mp gained.makes
    exact ⟨row, by rw [List.forall₂_nil_left_iff.mp none]⟩
  obtain ⟨rfl, rfl⟩ | ⟨same, made, changed, again, more, last, still⟩ := others
  · exact .inr ⟨table, [row], middle, found, gained, becomes, there⟩
  obtain rfl : middle = same := Except.ok.inj (there.symm.trans again)
  have named : middle.isNamed name = true := by
    have named : table.isNamed name = true := List.find?_some (table_eq_ok_iff.mp found)
    unfold Table.isNamed at named ⊢
    rwa [gained.defined]
  refine .inr ⟨table, row :: made, changed, found, gained.cons more, ?_, still⟩
  rw [last, becomes, withTable_withTable named]

end Database

end EntityTables
