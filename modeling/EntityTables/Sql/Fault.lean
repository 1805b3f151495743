/-
# EntityTables.Sql.Fault — why a database refuses a statement

Each fault names the table or column it is about; `message` is its wording.
-/

namespace EntityTables.Sql

set_option autoImplicit false

/-- Why a statement is refused. -/
inductive Fault where
  /-- Two columns of a new table have one name. -/
  | duplicateColumn (column : String)
  | tableExists (table : String)
  /-- A new table has a name that the database keeps for itself. -/
  | reservedName (table : String)
  | noSuchTable (table : String)
  | noSuchColumn (column : String)
  /-- A new row names a column that its table does not have. -/
  | noColumnNamed (table column : String)
  | wrongParameterCount (given needed : Nat)
  /-- No identity is left above the greatest one ever used. -/
  | full
  /-- The identity of a new row is taken. -/
  | identityTaken (table column : String)
  /-- An identity that is no integer. -/
  | datatypeMismatch
  | nestedTransaction
  | noTransaction
  /-- The file of the database is none. -/
  | notDatabase
  /-- The text is no statement. -/
  | malformed
  deriving DecidableEq, Inhabited

/-- The wording of a refusal. -/
def Fault.message : Fault → String
  | duplicateColumn column => "duplicate column name: " ++ column
  | tableExists table => "table " ++ table ++ " already exists"
  | reservedName table => "object name reserved for internal use: " ++ table
  | noSuchTable table => "no such table: " ++ table
  | noSuchColumn column => "no such column: " ++ column
  | noColumnNamed table column => "table " ++ table ++ " has no column named " ++ column
  | wrongParameterCount given needed =>
      "Wrong number of parameters passed to query. Got " ++ toString given ++ ", needed " ++
        toString needed
  | full => "database or disk is full"
  | identityTaken table column => "UNIQUE constraint failed: " ++ table ++ "." ++ column
  | datatypeMismatch => "datatype mismatch"
  | nestedTransaction => "cannot start a transaction within a transaction"
  | noTransaction => "cannot commit - no transaction is active"
  | notDatabase => "file is not a database"
  | malformed => "syntax error"

end EntityTables.Sql
