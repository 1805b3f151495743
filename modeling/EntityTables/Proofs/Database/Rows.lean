/-
# EntityTables.Proofs.Database.Rows — the rows of a table under its operations

What a table holds after a row is added, changed or removed, and what a search finds, in terms of
values by column name. An addition goes behind all rows; a change or a removal of the row with an
identity leaves every other row and the order as they are.

* `RowValues.cells` — the cells of the row that some values make.
* `insert_placed`, `update_identity`, `delete_identity` — the table after a change.
* `select_places` — the rows that a search finds, with all their columns.
-/
import EntityTables.Proofs.Database.Places

namespace EntityTables

set_option autoImplicit false

open Sql

namespace RowValues

/-- The cells of a row that has some values by column name and nothing else. -/
def cells (definition : TableDefinition) (values : RowValues) : List Cell :=
  definition.columns.map fun column =>
    column.2.keep ((values.get? column.1).elim .null Cell.ofValue)

/-- The cells of a row after some of its columns are given values. -/
def overwrite (definition : TableDefinition) (values : RowValues) (cells : List Cell) : List Cell :=
  (definition.columns.zip cells).map fun (column, cell) =>
    (values.get? column.1).elim cell fun value => column.2.keep (Cell.ofValue value)

theorem length_cells (definition : TableDefinition) (values : RowValues) :
    (values.cells definition).length = definition.columns.length := by
  simp [cells]

/-- New values in place of old ones make the cells of both together. -/
theorem overwrite_cells {definition : TableDefinition} {values old made : RowValues}
    (each : ∀ name ∈ definition.columnNames,
      made.get? name = (values.get? name).or (old.get? name)) :
    values.overwrite definition (old.cells definition) = made.cells definition := by
  unfold overwrite cells
  rw [← List.map_prod_left_eq_zip, List.map_map]
  refine List.map_congr_left fun column member => ?_
  simp only [Function.comp_apply]
  rw [each column.1 (List.mem_map_of_mem member)]
  cases values.get? column.1 <;> rfl

/-- Without values nothing is overwritten. -/
theorem overwrite_of_isEmpty {definition : TableDefinition} {values : RowValues}
    (none : values.isEmpty = true) {cells : List Cell}
    (whole : cells.length = definition.columns.length) :
    values.overwrite definition cells = cells := by
  have nothing (name : String) : values.get? name = .none := by
    rw [RowValues.get?_eq_none_iff, columns, List.isEmpty_iff.mp none]
    exact List.not_mem_nil
  unfold overwrite
  simp only [nothing, Option.elim_none]
  exact List.map_snd_zip (Nat.le_of_eq whole)

end RowValues

namespace Database

/-- A list worked off with the place of each member, where the place does not matter. -/
theorem map_zipIdx_eq_map {α β : Type} {list : List α} {f : α × Nat → β} {g : α → β}
    (same : ∀ index a, list[index]? = some a → f (a, index) = g a) :
    list.zipIdx.map f = list.map g := by
  refine List.ext_getElem (by simp) fun index within _ => ?_
  simp only [List.length_map, List.length_zipIdx] at within
  simp [same index list[index] (List.getElem?_eq_getElem within)]

/-! ## Identities -/

theorem le_greater_left (a b : Int64) : a ≤ Table.greater a b := by
  unfold Table.greater
  split
  · next less => exact Int64.le_of_lt less
  · exact Int64.le_refl a

theorem le_greater_right (a b : Int64) : b ≤ Table.greater a b := by
  unfold Table.greater
  split
  · exact Int64.le_refl b
  · next notLess => exact Int64.not_lt.mp notLess

theorem le_foldl_greater (rows : List StoredRow) (high : Int64) :
    high ≤ rows.foldl (fun high row => Table.greater high row.identity) high ∧
      ∀ row ∈ rows,
        row.identity ≤ rows.foldl (fun high row => Table.greater high row.identity) high := by
  induction rows generalizing high with
  | nil => exact ⟨Int64.le_refl high, by simp⟩
  | cons first rest ih =>
    obtain ⟨whole, each⟩ := ih (Table.greater high first.identity)
    refine ⟨Int64.le_trans (le_greater_left high first.identity) whole, ?_⟩
    intro row member
    rcases List.mem_cons.mp member with rfl | behind
    · exact Int64.le_trans (le_greater_right high row.identity) whole
    · exact each row behind

theorem foldl_greater_of_le {rows : List StoredRow} {high : Int64}
    (below : ∀ row ∈ rows, row.identity ≤ high) :
    rows.foldl (fun high row => Table.greater high row.identity) high = high := by
  induction rows with
  | nil => rfl
  | cons first rest ih =>
    have kept : Table.greater high first.identity = high :=
      if_neg (Int64.not_lt.mpr (below first List.mem_cons_self))
    rw [List.foldl_cons, kept]
    exact ih fun row member => below row (.tail _ member)

theorem lt_add_one {i : Int64} (room : i ≠ Int64.maxValue) : i < i + 1 := by
  have most := i.toInt_le
  have least := i.le_toInt
  have other : i.toInt ≠ Int64.maxValue.toInt := fun same => room (Int64.toInt_inj.mp same)
  rw [Int64.toInt_maxValue] at most other
  rw [Int64.lt_iff_toInt_lt, Int64.toInt_add, Int64.toInt_one, Int.bmod_eq_of_le] <;> omega

namespace Table

variable {table : Table}

/-- A new identity is above that of every row and every one given before. -/
theorem lt_of_freshIdentity {identity : Int64} (fresh : table.freshIdentity = .ok identity) :
    table.highest < identity ∧ ∀ row ∈ table.rows, row.identity < identity := by
  unfold freshIdentity at fresh
  split at fresh
  · cases fresh
  · next room =>
    cases fresh
    have step := lt_add_one room
    obtain ⟨whole, each⟩ := le_foldl_greater table.rows table.highest
    exact ⟨Int64.lt_of_le_of_lt whole step,
      fun row member => Int64.lt_of_le_of_lt (each row member) step⟩

/-- Where no row is above the greatest identity ever given, the next one is one more than that. -/
theorem freshIdentity_of_le (below : ∀ row ∈ table.rows, row.identity ≤ table.highest) :
    table.freshIdentity =
      if table.highest = Int64.maxValue then .error .full else .ok (table.highest + 1) := by
  unfold freshIdentity greatest
  rw [foldl_greater_of_le below]

end Table

theorem putRow_between (row : StoredRow) {before behind : List StoredRow}
    (above : ∀ other ∈ before, other.identity < row.identity)
    (below : ∀ other ∈ behind, row.identity < other.identity) :
    putRow row (before ++ behind) = before ++ row :: behind := by
  induction before with
  | nil =>
    cases behind with
    | nil => rfl
    | cons first rest =>
      rw [List.nil_append, putRow, if_pos (below first List.mem_cons_self)]
      rfl
  | cons first rest ih =>
    have later : ¬ row.identity < first.identity :=
      Int64.not_lt.mpr (Int64.le_of_lt (above first List.mem_cons_self))
    rw [List.cons_append, putRow, if_neg later, ih fun other member => above other (.tail _ member)]
    rfl

namespace Table

variable {table : Table} {values : RowValues}

/-- The rows stand in the order of their identities, which are all different. -/
def Ascending (table : Table) : Prop :=
  table.rows.Pairwise fun a b => a.identity < b.identity

/-! ## Additions -/

/-- A table with a row that has some values behind all others. -/
def withRow (table : Table) (identity : Int64) (values : RowValues) : Table :=
  { table with
    rows := table.rows ++ [⟨identity, values.cells table.definition⟩], highest := identity }

theorem newCells_placed (distinct : table.definition.Distinct)
    (fits : values.Fits table.definition) :
    table.newCells (values.placed table.definition) = values.cells table.definition := by
  unfold newCells RowValues.cells
  refine map_zipIdx_eq_map fun index column found => ?_
  obtain ⟨name, storage⟩ := column
  have member : name ∈ table.definition.columnNames :=
    List.mem_map_of_mem (List.mem_of_getElem? found)
  have given := RowValues.givenFor_placed fits member
  rw [TableDefinition.stored_of_getElem? distinct found] at given
  simp only [given]
  cases values.get? name <;> rfl

/-- A new row stands behind all others under a new identity. -/
theorem insert_placed (distinct : table.definition.Distinct)
    (fits : values.Fits table.definition) :
    table.insert (values.placed table.definition) =
      table.freshIdentity.map fun identity => (identity, table.withRow identity values) := by
  have identified : table.newIdentity (values.placed table.definition) = table.freshIdentity := by
    unfold newIdentity
    rw [RowValues.givenFor_placed_identity]
    rfl
  unfold insert
  rw [identified, newCells_placed distinct fits]
  cases fresh : table.freshIdentity with
  | error fault => rfl
  | ok identity =>
    obtain ⟨above, each⟩ := lt_of_freshIdentity fresh
    have free : table.has identity = false := by
      refine List.any_eq_false.mpr fun row member same => ?_
      exact Int64.ne_of_lt (each row member) (of_decide_eq_true same)
    have last : ∀ other ∈ ([] : List StoredRow), identity < other.identity := by simp
    have put := putRow_between ⟨identity, values.cells table.definition⟩ each last
    rw [List.append_nil] at put
    simp [bind, Except.bind, pure, Except.pure, Except.map, free, put, withRow, greater, above]

/-! ## Rows by identity -/

/-- The condition that a row has an identity. -/
def hasIdentity (identity : Int64) : Condition Place Cell :=
  .compare .identity .equal (.value (.integer identity))

theorem meets_hasIdentity (definition : TableDefinition) (row : StoredRow) (identity : Int64) :
    row.meetsAll definition (some (hasIdentity identity)) = decide (row.identity = identity) :=
  Storage.meets_equal_integer row.identity identity

/-- The rows around the only one that has an identity. -/
theorem Ascending.split (ascending : table.Ascending) {row : StoredRow}
    (member : row ∈ table.rows) :
    ∃ before behind, table.rows = before ++ row :: behind ∧
      (∀ other ∈ before, other.identity < row.identity) ∧
        ∀ other ∈ behind, row.identity < other.identity := by
  obtain ⟨before, behind, parts⟩ := List.append_of_mem member
  unfold Ascending at ascending
  rw [parts, List.pairwise_append, List.pairwise_cons] at ascending
  obtain ⟨-, ⟨below, -⟩, across⟩ := ascending
  exact ⟨before, behind, parts, fun other among => across other among row List.mem_cons_self, below⟩

theorem filter_around {row : StoredRow} {before behind : List StoredRow}
    (above : ∀ other ∈ before, other.identity < row.identity)
    (below : ∀ other ∈ behind, row.identity < other.identity) :
    ((before ++ row :: behind).filter fun other => decide (other.identity = row.identity)) =
        [row] ∧
      ((before ++ row :: behind).filter fun other => decide (other.identity ≠ row.identity)) =
        before ++ behind := by
  have left : ∀ other ∈ before, other.identity ≠ row.identity :=
    fun other among => Int64.ne_of_lt (above other among)
  have right : ∀ other ∈ behind, other.identity ≠ row.identity :=
    fun other among => (Int64.ne_of_lt (below other among)).symm
  constructor
  · rw [List.filter_append, List.filter_cons_of_pos (by simp),
      List.filter_eq_nil_iff.mpr (by simpa using left),
      List.filter_eq_nil_iff.mpr (by simpa using right)]
    rfl
  · rw [List.filter_append, List.filter_cons_of_neg (by simp),
      List.filter_eq_self.mpr (by simpa using left),
      List.filter_eq_self.mpr (by simpa using right)]

theorem changedRow_placed (distinct : table.definition.Distinct)
    (fits : values.Fits table.definition) (row : StoredRow) :
    table.changedRow (values.placed table.definition) row =
      .ok ⟨row.identity, values.overwrite table.definition row.cells⟩ := by
  simp only [changedRow, RowValues.givenFor_placed_identity, pure_bind]
  refine congrArg (fun cells => Except.ok (StoredRow.mk row.identity cells))
    (map_zipIdx_eq_map fun index pair found => ?_)
  obtain ⟨⟨name, storage⟩, cell⟩ := pair
  have column : table.definition.columns[index]? = some (name, storage) :=
    (List.getElem?_zip_eq_some.mp found).1
  have member : name ∈ table.definition.columnNames :=
    List.mem_map_of_mem (List.mem_of_getElem? column)
  have given := RowValues.givenFor_placed_reverse fits member
  rw [TableDefinition.stored_of_getElem? distinct column] at given
  simp only [given]
  cases values.get? name <;> rfl

/-- A row with some columns given values, if it has an identity. -/
def overwriteAt (definition : TableDefinition) (identity : Int64) (values : RowValues)
    (row : StoredRow) : StoredRow :=
  if row.identity = identity then ⟨row.identity, values.overwrite definition row.cells⟩ else row

theorem map_overwriteAt_of_ne {definition : TableDefinition} {identity : Int64}
    {rows : List StoredRow} (others : ∀ row ∈ rows, row.identity ≠ identity) :
    rows.map (overwriteAt definition identity values) = rows :=
  (List.map_congr_left fun row member => if_neg (others row member)).trans (List.map_id' rows)

theorem matching_hasIdentity (table : Table) (identity : Int64) :
    table.matching (some (hasIdentity identity)) =
      table.rows.filter fun row => decide (row.identity = identity) :=
  List.filter_congr fun row _ => meets_hasIdentity table.definition row identity

/-- The one row with an identity changed: the others stay where they are and as they are. -/
theorem change_placed (distinct : table.definition.Distinct)
    (fits : values.Fits table.definition) {row : StoredRow} {before behind : List StoredRow}
    (parts : table.rows = before ++ row :: behind)
    (above : ∀ other ∈ before, other.identity < row.identity)
    (below : ∀ other ∈ behind, row.identity < other.identity) :
    change (values.placed table.definition) table row =
      .ok { table with rows := table.rows.map (overwriteAt table.definition row.identity values) } := by
  have left : ∀ other ∈ before, other.identity ≠ row.identity :=
    fun other among => Int64.ne_of_lt (above other among)
  have right : ∀ other ∈ behind, other.identity ≠ row.identity :=
    fun other among => (Int64.ne_of_lt (below other among)).symm
  have free : ((before ++ behind).any fun other => decide (other.identity = row.identity)) =
      false := by
    refine List.any_eq_false.mpr fun other among => ?_
    rw [decide_eq_true_eq]
    exact (List.mem_append.mp among).elim (left other) (right other)
  have put := putRow_between ⟨row.identity, values.overwrite table.definition row.cells⟩ above below
  have mapped : table.rows.map (overwriteAt table.definition row.identity values) =
      before ++ ⟨row.identity, values.overwrite table.definition row.cells⟩ :: behind := by
    rw [parts, List.map_append, List.map_cons, map_overwriteAt_of_ne left,
      map_overwriteAt_of_ne right, overwriteAt, if_pos rfl]
  have others := (filter_around above below).2
  rw [← parts] at others
  unfold change
  rw [changedRow_placed distinct fits, mapped]
  simp only [bind, Except.bind, others, free, put]
  rfl

/-- A change of the row with an identity leaves all others where they are and as they are. -/
theorem update_identity (ascending : table.Ascending) (distinct : table.definition.Distinct)
    (fits : values.Fits table.definition) (identity : Int64) :
    table.update (values.placed table.definition) (some (hasIdentity identity)) =
      .ok ((table.rows.filter fun row => decide (row.identity = identity)).length,
        { table with rows := table.rows.map (overwriteAt table.definition identity values) }) := by
  unfold update
  rw [matching_hasIdentity]
  by_cases some : ∃ row ∈ table.rows, row.identity = identity
  · -- the rows in front of this one and behind it all have other identities
    obtain ⟨row, member, rfl⟩ := some
    obtain ⟨before, behind, parts, above, below⟩ := ascending.split member
    have found := (filter_around above below).1
    rw [← parts] at found
    simp only [found, List.foldlM_cons, List.foldlM_nil,
      change_placed distinct fits parts above below]
    rfl
  · have others : ∀ row ∈ table.rows, row.identity ≠ identity :=
      fun row member same => some ⟨row, member, same⟩
    have found : (table.rows.filter fun row => decide (row.identity = identity)) = [] :=
      List.filter_eq_nil_iff.mpr (by simpa using others)
    simp only [found, List.foldlM_nil, map_overwriteAt_of_ne others]
    rfl

/-- The removal of the row with an identity. -/
theorem delete_identity (table : Table) (identity : Int64) :
    table.delete (some (hasIdentity identity)) =
      ((table.rows.filter fun row => decide (row.identity = identity)).length,
        { table with rows := table.rows.filter fun row => decide (row.identity ≠ identity) }) := by
  have left : (table.rows.filter fun row =>
      !row.meetsAll table.definition (some (hasIdentity identity))) =
        table.rows.filter fun row => decide (row.identity ≠ identity) := by
    refine List.filter_congr fun row _ => ?_
    rw [meets_hasIdentity]
    exact decide_not.symm
  unfold delete
  rw [matching_hasIdentity, left]

/-! ## Searches -/

/-- The names and the cells of a row, its identity first. -/
def entries (definition : TableDefinition) (row : StoredRow) : List (String × Cell) :=
  (definition.identity, .value (.integer row.identity)) :: definition.columnNames.zip row.cells

theorem project_places {definition : TableDefinition} {row : StoredRow}
    (whole : row.cells.length = definition.columns.length) :
    project definition definition.places row = entries definition row := by
  unfold project TableDefinition.places entries
  rw [List.map_cons, List.map_map]
  refine congrArg₂ List.cons rfl (List.ext_getElem ?_ fun index within _ => ?_)
  · simp [TableDefinition.columnNames, whole]
  · have column : index < definition.columns.length := by simpa using within
    have cell : index < row.cells.length := whole ▸ column
    simp [TableDefinition.columnNames, TableDefinition.columnName, StoredRow.cell, column, cell]

theorem Ascending.matching (ascending : table.Ascending)
    (condition? : Option (Condition Place Cell)) :
    (table.matching condition?).Pairwise fun a b => a.identity < b.identity :=
  ascending.sublist List.filter_sublist

/-- Rows in the order of their identities stand in the order of a search by identity, and of one
without an order. -/
theorem select_places {condition? : Option (Condition Place Cell)} {order : List (SortKey Place)}
    (ascending : (table.matching condition?).Pairwise fun a b => a.identity < b.identity)
    (whole : ∀ row ∈ table.matching condition?,
      row.cells.length = table.definition.columns.length)
    (byIdentity : order = [] ∨ order = [⟨.identity, false⟩]) :
    table.select table.definition.places condition? order =
      (table.matching condition?).map (entries table.definition) := by
  have sorted : (table.matching condition?).Pairwise fun a b =>
      StoredRow.notAfter order a b = true := by
    refine ascending.imp fun {a b} less => ?_
    rcases byIdentity with rfl | rfl
    · rfl
    · have before : compare a.identity.toInt b.identity.toInt = .lt :=
        Int.compare_eq_lt.mpr (Int64.lt_iff_toInt_lt.mp less)
      simp [StoredRow.notAfter, StoredRow.cell, Cell.order, before]
  unfold select
  rw [List.mergeSort_of_pairwise sorted]
  exact List.map_congr_left fun row member => project_places (whole row member)

end Table

end Database

end EntityTables
