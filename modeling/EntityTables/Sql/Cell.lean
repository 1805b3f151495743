/-
# EntityTables.Sql.Cell — what a table holds

A cell holds a column value, or bytes that were declared to be text without being any: those can be
stored and compared, and only reading them fails.

* `Cell.ofTextBytes` — bytes declared to be text; `Cell.read` — the value of a cell.
* `Cell.ofValue` — a value as it is bound: what is no number is held as nothing.
-/
import EntityTables.Text.Utf8
import EntityTables.Value.Basic

namespace EntityTables.Sql

set_option autoImplicit false

/-- What a table holds in one column of one row. -/
inductive Cell where
  | value (v : Value)
  /-- Bytes that were declared to be text and are none. -/
  | brokenText (bytes : List UInt8)
  deriving DecidableEq, Inhabited

namespace Cell

/-- A value as it is bound to a placeholder. -/
def ofValue : Value → Cell
  | .real x => value (if x.isNaN then .null else .real x)
  | v => value v

/-- Bytes declared to be text. -/
def ofTextBytes (bytes : List UInt8) : Cell :=
  match Utf8.decode bytes with
  | .ok cs => value (.text (String.ofList cs))
  | .error _ => brokenText bytes

/-- The value of a cell. -/
def read : Cell → Except Utf8Fault Value
  | value v => .ok v
  | brokenText bytes => (Utf8.decode bytes).map fun cs => .text (String.ofList cs)

/-- The empty cell. -/
def null : Cell := value .null

theorem read_ofTextBytes (bytes : List UInt8) :
    (ofTextBytes bytes).read =
      (Utf8.decode bytes).map fun cs => Value.text (String.ofList cs) := by
  unfold ofTextBytes
  split
  · rename_i decoded
    simp [read, decoded, Except.map]
  · rfl

theorem read_ofValue {v : Value} (number : ∀ x, v = .real x → x.isNaN = false) :
    (ofValue v).read = .ok v := by
  cases v with
  | real x => simp [ofValue, read, number x rfl]
  | _ => rfl

end Cell

end EntityTables.Sql
