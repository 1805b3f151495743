/-
# EntityTables.Database.Table — a table and its rows

Rows stand in the order of their identities, which are all different. A table remembers the greatest
identity that an insertion ever gave it, and a row without an identity of its own gets one above
that; so identities are not used again.

* `Place` — what a name means in a table; `TableDefinition.place?` finds it.
* `Table.insert`, `Table.update`, `Table.delete`, `Table.select` — a refused change changes nothing.
-/
import EntityTables.Sql.Fault
import EntityTables.Sql.Name
import EntityTables.Sql.Order

namespace EntityTables

set_option autoImplicit false

open Sql

namespace Database

/-- What a name means in a table: its identity, one of the other columns by number, or, where no
column has a name between quotes, that name as a text. -/
inductive Place where
  | identity
  | stored (index : Nat)
  | literal (text : String)
  deriving DecidableEq, Inhabited

/-- A row: its identity, and a cell for each of the other columns. -/
structure StoredRow where
  identity : Int64
  cells : List Cell
  deriving DecidableEq, Inhabited

/-- A table: its definition, its rows by identity, and the greatest identity ever given out. -/
structure Table where
  definition : TableDefinition
  rows : List StoredRow
  highest : Int64
  deriving DecidableEq, Inhabited

end Database

open Database

namespace Sql.TableDefinition

/-- Whether a name means the identity of any table in which no column has that name. -/
def isRowName (name : String) : Bool := ["rowid", "_rowid_", "oid"].any fun row => sameName row name

/-- The column that a name means; case does not matter. -/
def place? (definition : TableDefinition) (column : String) : Option Place :=
  if sameName definition.identity column then some .identity
  else
    match definition.columns.findIdx? fun c => sameName c.1 column with
    | some index => some (.stored index)
    | none => if isRowName column then some .identity else none

/-- All columns, the identity first. -/
def places (definition : TableDefinition) : List Place :=
  .identity :: (List.range definition.columns.length).map .stored

/-- The name that a column was given; a text is shown as it is written. -/
def columnName (definition : TableDefinition) : Place → String
  | .identity => definition.identity
  | .literal text => quotedName text
  | .stored index => (definition.columns[index]?.map Prod.fst).getD ""

/-- The class of a column; a text converts nothing. -/
def storage (definition : TableDefinition) : Place → Storage
  | .identity => .integer
  | .stored index => (definition.columns[index]?.map Prod.snd).getD .blob
  | .literal _ => .blob

end Sql.TableDefinition

namespace Database

namespace StoredRow

/-- The cell that a name means. -/
def cell (row : StoredRow) : Place → Cell
  | .identity => .value (.integer row.identity)
  | .stored index => row.cells.getD index .null
  | .literal text => .value (.text text)

/-- Whether a row of a table meets a condition. -/
def meets (definition : TableDefinition) (row : StoredRow) : Condition Place Cell → Bool
  | .compare place comparison operand =>
    (definition.storage place).meets comparison (row.cell place) operand
  | .isNull place => (row.cell place).isNull
  | .isNotNull place => !(row.cell place).isNull
  | .and left right => meets definition row left && meets definition row right
  | .or left right => meets definition row left || meets definition row right

/-- Whether a row meets a condition, if there is one. -/
def meetsAll (definition : TableDefinition) (row : StoredRow)
    (condition? : Option (Condition Place Cell)) : Bool :=
  match condition? with
  | none => true
  | some condition => row.meets definition condition

/-- Whether one row does not come after another in an order. -/
def notAfter (order : List (SortKey Place)) (a b : StoredRow) : Bool :=
  match order with
  | [] => true
  | key :: rest =>
    let found := (a.cell key.column).order (b.cell key.column)
    match if key.descending then found.swap else found with
    | .lt => true
    | .gt => false
    | .eq => notAfter rest a b

end StoredRow

/-- The identity that a cell stands for; none for nothing. -/
def identityOf (cell : Cell) : Except Fault (Option Int64) :=
  match integral cell with
  | .value .null => .ok none
  | .value (.integer identity) => .ok (some identity)
  | _ => .error .datatypeMismatch

/-- Puts a row among rows that stand in the order of their identities. -/
def putRow (row : StoredRow) : List StoredRow → List StoredRow
  | [] => [row]
  | first :: rest =>
    if row.identity < first.identity then row :: first :: rest else first :: putRow row rest

/-- The cell that some values give for a column, the first of several. -/
def givenFor (values : List (Place × Cell)) (place : Place) : Option Cell :=
  (values.find? fun v => v.1 = place).map Prod.snd

namespace Table

/-- A table without rows. -/
def empty (definition : TableDefinition) : Table := ⟨definition, [], 0⟩

/-- Whether a row has an identity. -/
def has (table : Table) (identity : Int64) : Bool :=
  table.rows.any fun row => row.identity = identity

/-- The greater of two identities. -/
def greater (a b : Int64) : Int64 := if a < b then b else a

/-- The greatest identity that a row has or an insertion gave. -/
def greatest (table : Table) : Int64 :=
  table.rows.foldl (fun high row => greater high row.identity) table.highest

/-- The identity of a new row that is given none. -/
def freshIdentity (table : Table) : Except Fault Int64 :=
  if table.greatest = Int64.maxValue then .error .full else .ok (table.greatest + 1)

/-- The identity of a new row; the last of several values counts. -/
def newIdentity (table : Table) (values : List (Place × Cell)) : Except Fault Int64 := do
  match ← identityOf ((givenFor values.reverse .identity).getD .null) with
  | none => table.freshIdentity
  | some identity => return identity

/-- The cells of a new row: the first of several values counts, and columns without one are
empty. -/
def newCells (table : Table) (values : List (Place × Cell)) : List Cell :=
  table.definition.columns.zipIdx.map fun ((_, storage), index) =>
    storage.keep ((givenFor values (.stored index)).getD .null)

/-- The refusal of an identity that a row has already. -/
def taken (table : Table) : Fault :=
  .identityTaken table.definition.name table.definition.identity

/-- Adds a row: its identity, and the table with it. -/
def insert (table : Table) (values : List (Place × Cell)) : Except Fault (Int64 × Table) := do
  let identity ← table.newIdentity values
  if table.has identity then throw table.taken
  else
    let row : StoredRow := ⟨identity, table.newCells values⟩
    return (identity,
      { table with rows := putRow row table.rows, highest := greater table.highest identity })

/-- A row with some columns set, the last of several values counting. -/
def changedRow (table : Table) (assignments : List (Place × Cell)) (row : StoredRow) :
    Except Fault StoredRow := do
  let last := assignments.reverse
  let identity ← match givenFor last .identity with
    | none => pure row.identity
    | some cell =>
      match ← identityOf cell with
      | none => throw .datatypeMismatch
      | some identity => pure identity
  let cells := (table.definition.columns.zip row.cells).zipIdx.map
    fun (((_, storage), cell), index) =>
      match givenFor last (.stored index) with
      | none => cell
      | some given => storage.keep given
  return ⟨identity, cells⟩

/-- The table with some columns of one of its rows set. -/
def change (assignments : List (Place × Cell)) (table : Table) (row : StoredRow) :
    Except Fault Table := do
  let changed ← table.changedRow assignments row
  let others := table.rows.filter fun other => other.identity ≠ row.identity
  if others.any fun other => other.identity = changed.identity then throw table.taken
  else return { table with rows := putRow changed others }

/-- The rows that meet a condition. -/
def matching (table : Table) (condition? : Option (Condition Place Cell)) : List StoredRow :=
  table.rows.filter fun row => row.meetsAll table.definition condition?

/-- Sets some columns of the rows that meet a condition, one after the other: how many there are,
and the table after that. -/
def update (table : Table) (assignments : List (Place × Cell))
    (condition? : Option (Condition Place Cell)) : Except Fault (Nat × Table) := do
  let rows := table.matching condition?
  return (rows.length, ← rows.foldlM (change assignments) table)

/-- Removes the rows that meet a condition: how many there are, and the table without them. -/
def delete (table : Table) (condition? : Option (Condition Place Cell)) : Nat × Table :=
  ((table.matching condition?).length,
    { table with
      rows := table.rows.filter fun row => !row.meetsAll table.definition condition? })

/-- Some columns of a row, by the names that they were given. -/
def project (definition : TableDefinition) (places : List Place) (row : StoredRow) :
    List (String × Cell) :=
  places.map fun place => (definition.columnName place, row.cell place)

/-- Some columns of the rows that meet a condition, in an order; rows that are equal in it stand by
identity. -/
def select (table : Table) (places : List Place) (condition? : Option (Condition Place Cell))
    (order : List (SortKey Place)) : List (List (String × Cell)) :=
  ((table.matching condition?).mergeSort (StoredRow.notAfter order)).map
    (project table.definition places)

end Table

end Database

end EntityTables
