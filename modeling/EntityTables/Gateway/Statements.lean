/-
# EntityTables.Gateway.Statements — the statements of row operations, as SQL text

Names are quoted where they need it, values stand behind placeholders, and a predicate's clause goes
in as it is.
-/
import EntityTables.Gateway.Predicate

namespace EntityTables

set_option autoImplicit false

/-- Names with commas between them. -/
def nameList (names : List String) : String := ", ".intercalate (names.map Sql.quoteName)

/-- Adds a row that gives values for some columns, or for none. -/
def insertText (table : String) (columns : List String) : String :=
  if columns.isEmpty then "INSERT INTO " ++ Sql.quoteName table ++ " DEFAULT VALUES"
  else
    "INSERT INTO " ++ Sql.quoteName table ++ " (" ++ nameList columns ++ ") VALUES (" ++
      ", ".intercalate (columns.map fun _ => "?") ++ ")"

/-- Changes some columns of the rows that meet a predicate. -/
def updateText (table : String) (columns : List String) (predicate : Predicate) : String :=
  "UPDATE " ++ Sql.quoteName table ++ " SET " ++
    ", ".intercalate (columns.map fun column => Sql.quoteName column ++ " = ?") ++
    predicate.whereText

/-- Removes the rows that meet a predicate. -/
def deleteText (table : String) (predicate : Predicate) : String :=
  "DELETE FROM " ++ Sql.quoteName table ++ predicate.whereText

/-- Selects some columns, or all if none is named, of the rows that meet a predicate. -/
def selectText (table : String) (columns : List String) (predicate : Predicate)
    (order? : Option String) : String :=
  "SELECT " ++ (if columns.isEmpty then "*" else nameList columns) ++ " FROM " ++
    Sql.quoteName table ++ predicate.whereText ++
    match order? with
    | some order => " ORDER BY " ++ order
    | none => ""

end EntityTables
