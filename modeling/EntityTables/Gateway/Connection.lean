/-
# EntityTables.Gateway.Connection — the gateway to a database

Each operation is a statement as SQL text, which is noted and then run. There is one transaction at
a time; to take it back is to return to the database as it was when it was opened.

* `Connection` — the state, with the texts of the statements so far.
-/
import EntityTables.Database.Basic
import EntityTables.Gateway.Basic
import EntityTables.Gateway.Statements
import EntityTables.Sql.StatementReader

namespace EntityTables

set_option autoImplicit false

open Sql

/-- A database, the one to return to while a transaction is open, and the statements so far. -/
structure Connection where
  database : Database
  saved? : Option Database
  statements : List String
  deriving DecidableEq, Inhabited

namespace Connection

/-- A connection to a new database. -/
def empty : Connection := ⟨.empty, none, []⟩

/-- Notes a statement. -/
def note (text : String) : Action Connection Unit :=
  modify fun connection => { connection with statements := connection.statements ++ [text] }

/-- Goes on with the database after a statement; a refused one leaves it as it is. -/
def proceed (run : Database → Except Fault (Database.Outcome × Database)) :
    Action Connection Database.Outcome := do
  let connection ← get
  match run connection.database with
  | .error fault => throw (.ofSql fault)
  | .ok (outcome, database) =>
    set { connection with database := database }
    return outcome

/-- Notes a statement and runs it with values for its placeholders. -/
def run (text : String) (values : List Value) : Action Connection Database.Outcome := do
  note text
  match firstStatement? text with
  | none => throw (.ofSql .malformed)
  | some statement => proceed fun database => database.run statement values

/-- Runs a statement that may be none. -/
def runPart : Option (Statement Operand) → Action Connection Unit
  | none => throw (.ofSql .malformed)
  | some statement => do let _ ← proceed fun database => database.runAlone statement

/-- Runs a statement that changes rows: how many there are. -/
def count (text : String) (values : List Value) : Action Connection Nat := do
  match ← run text values with
  | .changed count => return count
  | _ => return 0

/-- The value of a cell of a column. -/
def readCell : String × Cell → Except Error (String × Value)
  | (column, cell) =>
    match cell.read with
    | .ok value => .ok (column, value)
    | .error fault => .error (.decode column (.brokenText fault))

/-- The values of a row's cells. -/
def readRow (cells : List (String × Cell)) : Except Error Row := do
  return ⟨← cells.mapM readCell⟩

/-- Runs a statement that finds rows: those it finds. -/
def rows (text : String) (values : List Value) : Action Connection (List Row) := do
  match ← run text values with
  | .found rows => .ofExcept (rows.mapM readRow)
  | _ => return []

/-- Runs a statement that adds a row: its identity. -/
def identity (text : String) (values : List Value) : Action Connection Int64 := do
  match ← run text values with
  | .inserted identity => return identity
  | _ => return 0

end Connection

instance : Gateway Connection where
  execute text := do
    Connection.note text
    (script text).forM Connection.runPart
  insertRow table values :=
    Connection.identity (insertText table values.columns) values.values
  updateRows table values predicate :=
    if values.isEmpty then return 0
    else
      Connection.count (updateText table values.columns predicate)
        (values.values ++ predicate.args)
  deleteRows table predicate := Connection.count (deleteText table predicate) predicate.args
  queryRows table columns predicate order? :=
    Connection.rows (selectText table columns predicate order?) predicate.args
  rawQuery text args := Connection.rows text args
  openTransaction := do
    let connection ← get
    match connection.saved? with
    | some _ => throw (.ofSql .nestedTransaction)
    | none => set { connection with saved? := some connection.database }
  commit := do
    let connection ← get
    match connection.saved? with
    | some _ => set { connection with saved? := none }
    | none => throw (.ofSql .noTransaction)
  rollback := do
    let connection ← get
    match connection.saved? with
    | some database => set { connection with database := database, saved? := none }
    | none => throw (.ofSql .noTransaction)

end EntityTables
