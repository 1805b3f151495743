/-
# EntityTables.Value.Basic — the values of columns

What a column holds: nothing, a 64-bit integer, a double precision number, a text, or bytes.

* `Value` — the values; `Value.kind` — the name of a value's class; `Value.display` — its text in
  messages.
-/
import EntityTables.Decimal.Layout

namespace EntityTables

set_option autoImplicit false

/-- The value of a column. -/
inductive Value where
  | null
  | integer (i : Int64)
  | real (x : Double)
  | text (s : String)
  | blob (bytes : List UInt8)
  deriving DecidableEq, Inhabited

/-- The classes of column values. -/
inductive ValueKind where
  | null
  | integer
  | real
  | text
  | blob
  deriving DecidableEq, Inhabited

/-- The name of a class. -/
def ValueKind.name : ValueKind → String
  | null => "NULL"
  | integer => "INTEGER"
  | real => "REAL"
  | text => "TEXT"
  | blob => "BLOB"

namespace Value

/-- The class of a value. -/
def kind : Value → ValueKind
  | null => .null
  | integer _ => .integer
  | real _ => .real
  | text _ => .text
  | blob _ => .blob

/-- Whether the value is none. -/
def isNull : Value → Bool
  | null => true
  | _ => false

/-- The value as messages show it. -/
def display : Value → String
  | null => "NULL"
  | integer i => toString i.toInt
  | real x => x.display
  | text s => "'" ++ s ++ "'"
  | blob bytes => "<" ++ toString bytes.length ++ " bytes>"

/-- A truth value, stored as one or zero. -/
def ofBool (b : Bool) : Value := integer (if b then 1 else 0)

/-- A single precision number, stored widened. -/
def ofSingle (x : Single) : Value := real x.toDouble

/-- A character, stored as the text of it alone. -/
def ofChar (c : Char) : Value := text (String.ofList [c])

/-- A value that may be missing. -/
def ofOption {α : Type} (store : α → Value) : Option α → Value
  | none => null
  | some a => store a

end Value

end EntityTables
