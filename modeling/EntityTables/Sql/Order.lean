/-
# EntityTables.Sql.Order — the order of cells

Nothing comes first, then numbers by value, then texts by their bytes, then bytes. Conditions and
orders of rows both go by it; but a comparison with nothing never holds.

* `Cell.order`; `Storage.meets` — whether a cell of a column meets a comparison.
-/
import EntityTables.Sql.Affinity
import EntityTables.Sql.Statement

namespace EntityTables.Sql

set_option autoImplicit false

/-- The order of bytes, the first difference counting. -/
def compareBytes : List UInt8 → List UInt8 → Ordering
  | [], [] => .eq
  | [], _ :: _ => .lt
  | _ :: _, [] => .gt
  | a :: as, b :: bs => (compare a.toNat b.toNat).then (compareBytes as bs)

/-- The order of two numbers by value. -/
def compareReals (x y : Double) : Ordering := (x.compare? y).getD .eq

namespace Cell

/-- The bytes of a text. -/
def textBytes (s : String) : List UInt8 := Utf8.encode s.toList

/-- The place of a cell's class among the classes. -/
def rank : Cell → Nat
  | .value .null => 0
  | .value (.integer _) | .value (.real _) => 1
  | .value (.text _) | .brokenText _ => 2
  | .value (.blob _) => 3

/-- The order of two cells. -/
def order (a b : Cell) : Ordering :=
  match a, b with
  | .value (.integer i), .value (.integer j) => compare i.toInt j.toInt
  | .value (.integer i), .value (.real y) => (y.compareInt i.toInt).swap
  | .value (.real x), .value (.integer j) => x.compareInt j.toInt
  | .value (.real x), .value (.real y) => compareReals x y
  | .value (.text s), .value (.text t) => compareBytes (textBytes s) (textBytes t)
  | .value (.text s), .brokenText right => compareBytes (textBytes s) right
  | .brokenText left, .value (.text t) => compareBytes left (textBytes t)
  | .brokenText left, .brokenText right => compareBytes left right
  | .value (.blob left), .value (.blob right) => compareBytes left right
  | a, b => compare a.rank b.rank

/-- Whether a cell holds nothing. -/
def isNull : Cell → Bool
  | .value .null => true
  | _ => false

end Cell

end EntityTables.Sql

namespace EntityTables

open Sql

/-- Whether a cell of a column meets a comparison with another. -/
def Storage.meets (storage : Storage) (comparison : Comparison) (cell other : Cell) : Bool :=
  !cell.isNull && !other.isNull && comparison.holds (cell.order (storage.adapt other))

@[simp] theorem Storage.meets_null_left (storage : Storage) (comparison : Comparison)
    (other : Cell) : storage.meets comparison .null other = false := by
  simp [meets, Cell.isNull, Cell.null]

@[simp] theorem Storage.meets_null_right (storage : Storage) (comparison : Comparison)
    (cell : Cell) : storage.meets comparison cell .null = false := by
  simp [meets, Cell.isNull, Cell.null]

theorem Storage.meets_equal_integer (i j : Int64) :
    Storage.integer.meets .equal (.value (.integer i)) (.value (.integer j)) = decide (i = j) := by
  have : (compare i.toInt j.toInt == Ordering.eq) = decide (i = j) := by
    rw [Bool.eq_iff_iff]
    simp [Int64.toInt_inj]
  simpa [meets, Cell.isNull, Cell.order, Comparison.holds, adapt, numeric] using this

end EntityTables
