/-
# EntityTables.Database.Basic — tables by name, and the statements on them

A database is its tables. To run a statement is to find its table, then its columns in the order in
which they stand, then to count the values for its placeholders, and only then to carry it out. A
refused statement has no database after it.

* `Database.run` — what a statement gives, and the database after it.
-/
import EntityTables.Database.Table

namespace EntityTables

set_option autoImplicit false

open Sql

/-- The tables of a database, in the order of their creation. -/
structure Database where
  tables : List Database.Table
  deriving DecidableEq, Inhabited

namespace Database

/-- What a statement gives. -/
inductive Outcome where
  | done
  /-- A new row has this identity. -/
  | inserted (identity : Int64)
  /-- So many rows met the condition of a change. -/
  | changed (count : Nat)
  /-- The rows found, with the names of their columns. -/
  | found (rows : List (List (String × Cell)))
  deriving DecidableEq, Inhabited

/-- A database without tables. -/
def empty : Database := ⟨[]⟩

/-- Whether a table has a name; case does not matter. -/
def Table.isNamed (name : String) (table : Table) : Bool := sameName table.definition.name name

/-- The table of a name. -/
def table (database : Database) (name : String) : Except Fault Table :=
  match database.tables.find? (Table.isNamed name) with
  | some table => .ok table
  | none => .error (.noSuchTable name)

/-- A database with the table of a name replaced. -/
def withTable (database : Database) (name : String) (table : Table) : Database :=
  ⟨database.tables.map fun other => if other.isNamed name then table else other⟩

/-- The first name in a list that repeats an earlier one; case does not matter. -/
def firstRepeated? (earlier : List String) : List String → Option String
  | [] => none
  | name :: rest =>
    if earlier.any (sameName name) then some name else firstRepeated? (name :: earlier) rest

/-- Whether the database keeps a name for itself. -/
def isReserved (name : String) : Bool := (foldCase "sqlite_").isPrefixOf (foldCase name)

/-- Adds a table. -/
def create (database : Database) (spelling : String) (definition : TableDefinition) :
    Except Fault Database :=
  if isReserved definition.name then .error (.reservedName definition.name)
  else if database.tables.any (Table.isNamed definition.name) then .error (.tableExists spelling)
  else
    match firstRepeated? [] (definition.identity :: definition.columns.map Prod.fst) with
    | some column => .error (.duplicateColumn column)
    | none => .ok ⟨database.tables ++ [.empty definition]⟩

/-- A database without the table of a name. -/
def drop (database : Database) (name : String) : Database :=
  ⟨database.tables.filter fun table => !table.isNamed name⟩

namespace Table

/-- The column of a name. -/
def column (table : Table) (name : String) : Except Fault Place :=
  match table.definition.place? name with
  | some place => .ok place
  | none => .error (.noSuchColumn name)

/-- What a name in a condition, an order or a selection means. -/
def place (table : Table) (column : ColumnName) : Except Fault Place :=
  if column.quoted then
    .ok ((table.definition.place? column.name).getD (.literal column.name))
  else table.column column.name

/-- The column that a new row names. -/
def newPlace (table : Table) (name column : String) : Except Fault Place :=
  match table.definition.place? column with
  | some place => .ok place
  | none => .error (.noColumnNamed name column)

/-- A condition with its columns found, if there is one. -/
def condition (table : Table) :
    Option (Condition ColumnName Cell) → Except Fault (Option (Condition Place Cell))
  | none => .ok none
  | some condition => (condition.replace table.place pure).map some

/-- An order with its columns found. -/
def order (table : Table) (keys : List (SortKey ColumnName)) :
    Except Fault (List (SortKey Place)) :=
  keys.mapM fun key => do return ⟨← table.place key.column, key.descending⟩

/-- The columns to select with their places found; all if none is named. -/
def selection (table : Table) (columns : List ColumnName) :
    Except Fault (List Place) :=
  if columns.isEmpty then .ok table.definition.places else columns.mapM table.place

end Table

/-- Carries out a statement whose values have been counted. -/
def carryOut (counted : Except Fault Unit) (database : Database) :
    Statement Cell → Except Fault (Outcome × Database)
  | .createTable spelling definition => do
    return (.done, ← database.create spelling definition)
  | .dropTable name => return (.done, database.drop name)
  | .insert name values => do
    let table ← database.table name
    let values ← values.mapM fun (column, cell) => do return (← table.newPlace name column, cell)
    counted
    let (identity, table) ← table.insert values
    return (.inserted identity, database.withTable name table)
  | .update name assignments condition? => do
    let table ← database.table name
    let assignments ← assignments.mapM fun (column, cell) => do
      return (← table.column column, cell)
    let condition? ← table.condition condition?
    counted
    let (count, table) ← table.update assignments condition?
    return (.changed count, database.withTable name table)
  | .delete name condition? => do
    let table ← database.table name
    let condition? ← table.condition condition?
    counted
    let (count, table) := table.delete condition?
    return (.changed count, database.withTable name table)
  | .select columns name condition? order => do
    let table ← database.table name
    let places ← table.selection columns
    let condition? ← table.condition condition?
    let order ← table.order order
    counted
    return (.found (table.select places condition? order), database)

/-- Whether as many values are given as a statement has placeholders. More are not counted further
than the first one too many. -/
def countValues (given needed : Nat) : Except Fault Unit :=
  if given = needed then .ok () else .error (.wrongParameterCount (min given (needed + 1)) needed)

/-- Runs a statement with values for its placeholders. -/
def run (database : Database) (statement : Statement Operand) (values : List Value) :
    Except Fault (Outcome × Database) :=
  database.carryOut (countValues values.length statement.placeholders)
    (statement.bind (values.map Cell.ofValue))

/-- Runs a statement without values: its placeholders stand for nothing. -/
def runAlone (database : Database) (statement : Statement Operand) :
    Except Fault (Outcome × Database) :=
  database.carryOut (.ok ()) (statement.bind [])

end Database

end EntityTables
