/-
# EntityTables.Sql.Affinity — how columns convert what they are given

A column keeps what it is given in its own class where that loses nothing. What it is compared with
is converted in the same direction.

* `Storage.keep` — what a column of a class holds when it is given a cell.
* `Storage.adapt` — what a column of a class is compared with when it is given a cell.
-/
import EntityTables.Decimal.Significant
import EntityTables.Schema.Storage
import EntityTables.Sql.Cell
import EntityTables.Sql.NumericText

namespace EntityTables.Sql

set_option autoImplicit false

/-- A real number that is an integer of 64 bits, but not the least of them, as that integer. -/
def integerOfReal (x : Double) : Value :=
  match x.toInt? with
  | some i =>
    if IntType.int64.Holds i ∧ i ≠ IntType.int64.least then .integer (.ofInt i) else .real x
  | none => .real x

/-- A real number as a text column holds it: fifteen significant digits, at least one behind the
point, positional from 1e-4 up to, but not at, 1e15. -/
def textOfReal (x : Double) : String :=
  match x.read with
  | .notANumber => ""
  | .infinity negative => if negative then "-Inf" else "Inf"
  | .finite negative mantissa _ =>
    if mantissa = 0 then "0.0"
    else
      let (number, power) := Decimal.significant 15 ⟨x.bits &&& 0x7fffffffffffffff⟩
      let digits := Nat.toDigits 10 number
      let leading : Int := power + (digits.length - 1 : Nat)
      let fractionText (fraction : List Char) := if fraction.isEmpty then ['0'] else fraction
      let body :=
        if -4 ≤ leading ∧ leading ≤ 14 then
          let (whole, fraction) := Decimal.positional digits power
          whole ++ '.' :: fractionText fraction
        else
          let (first, fraction, _) := Decimal.scientific digits power
          let power := Nat.toDigits 10 leading.natAbs
          first ++ '.' :: fractionText fraction ++ ['e', if leading < 0 then '-' else '+'] ++
            List.replicate (2 - power.length) '0' ++ power
      String.ofList ((if negative then ['-'] else []) ++ body)

/-- A cell as a number, if it is one or reads as one. -/
def numeric : Cell → Cell
  | .value (.text s) => .value ((numberOfText? s).getD (.text s))
  | cell => cell

/-- A cell as an integer, if it is one or can be one. -/
def integral (cell : Cell) : Cell :=
  match numeric cell with
  | .value (.real x) => .value (integerOfReal x)
  | cell => cell

/-- A cell as a text, if it is a number. -/
def textual : Cell → Cell
  | .value (.integer i) => .value (.text (toString i.toInt))
  | .value (.real x) => .value (.text (textOfReal x))
  | cell => cell

end EntityTables.Sql

namespace EntityTables

open Sql

/-- What a column holds when it is given a cell. -/
def Storage.keep : Storage → Cell → Cell
  | .integer, cell => integral cell
  | .real, cell =>
    match integral cell with
    | .value (.integer i) => .value (.real (Double.ofInt i.toInt))
    | cell => cell
  | .text, cell => textual cell
  | .blob, cell => cell

/-- What a column is compared with when it is given a cell. -/
def Storage.adapt : Storage → Cell → Cell
  | .integer, cell | .real, cell => numeric cell
  | .text, cell => textual cell
  | .blob, cell => cell

@[simp] theorem Storage.keep_null (storage : Storage) : storage.keep .null = .null := by
  cases storage <;> rfl

@[simp] theorem Storage.keep_integer (i : Int64) :
    Storage.integer.keep (.value (.integer i)) = .value (.integer i) := rfl

@[simp] theorem Storage.keep_text (s : String) :
    Storage.text.keep (.value (.text s)) = .value (.text s) := rfl

@[simp] theorem Storage.keep_blob (storage : Storage) (bytes : List UInt8) :
    storage.keep (.value (.blob bytes)) = .value (.blob bytes) := by
  cases storage <;> rfl

end EntityTables
