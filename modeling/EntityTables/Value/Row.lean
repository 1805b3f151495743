/-
# EntityTables.Value.Row — rows of a result

A row has named values in the order they were selected. Names may repeat, and the accessors see
only the first value of a name. An accessor gives a value of its own class; the one for reals also
widens integers, and the optional ones give nothing for a missing value.

* `Row.value`, `Row.integer`, `Row.real`, `Row.text`, `Row.bytes`, `Row.optional`.
* `Accessor.read`, `Accessor.readOptional` — the accessor of a name.
-/
import EntityTables.Error
import EntityTables.Value.RowValues

namespace EntityTables

set_option autoImplicit false

/-- A row of a result. -/
structure Row where
  entries : List (String × Value)
  deriving DecidableEq, Inhabited

namespace Row

/-- The names, in order. -/
def columns (row : Row) : List String := row.entries.map Prod.fst

/-- How many values there are. -/
def size (row : Row) : Nat := row.entries.length

/-- Whether there are none. -/
def isEmpty (row : Row) : Bool := row.entries.isEmpty

/-- The first value of a name. -/
def value (row : Row) (column : String) : Except Error Value :=
  match findPair? column row.entries with
  | some value => .ok value
  | none => .error (.decode column .missing)

end Row

/-- A value as an accessor gives it, if the value is of its class. -/
def Accessor.ofValue? (accessor : Accessor) (value : Value) : Option Value :=
  match accessor, value with
  | .integer, .integer i => some (.integer i)
  | .real, .real x => some (.real x)
  | .real, .integer i => some (.real (Double.ofInt i.toInt))
  | .text, .text s => some (.text s)
  | .bytes, .blob content => some (.blob content)
  | _, _ => none

/-- A value as an accessor gives it. -/
def Accessor.ofValue (accessor : Accessor) (column : String) (value : Value) :
    Except Error Value :=
  if value = .null then .error (.decode column .unexpectedNull)
  else
    match accessor.ofValue? value with
    | some given => .ok given
    | none => .error (.decode column (.wrongClass accessor value.kind))

/-- The value of a column as an accessor gives it. -/
def Accessor.read (accessor : Accessor) (row : Row) (column : String) : Except Error Value := do
  accessor.ofValue column (← row.value column)

/-- The same, where the column may be empty. -/
def Accessor.readOptional (accessor : Accessor) (row : Row) (column : String) :
    Except Error (Option Value) := do
  let value ← row.value column
  if value = .null then return none
  else return some (← accessor.ofValue column value)

end EntityTables
