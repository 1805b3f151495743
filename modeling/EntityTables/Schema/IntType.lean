/-
# EntityTables.Schema.IntType — the fixed-width integer types of fields

The seven integer types that fit into a 64-bit column, each with its range. An unsigned 64-bit
type is not among them, because its upper half has no place in such a column.

* `IntType.Holds t i` — the value `i` lies in the range of `t`; it is decidable.
-/

namespace EntityTables

set_option autoImplicit false

/-- A fixed-width integer type whose values fit into 64 signed bits. -/
inductive IntType where
  | int8
  | int16
  | int32
  | int64
  | uint8
  | uint16
  | uint32
  deriving DecidableEq, Inhabited

namespace IntType

/-- How source text spells the type. -/
def name : IntType → String
  | int8 => "i8"
  | int16 => "i16"
  | int32 => "i32"
  | int64 => "i64"
  | uint8 => "u8"
  | uint16 => "u16"
  | uint32 => "u32"

/-- How a schema spells the type. -/
def label : IntType → String
  | int8 => "Int8"
  | int16 => "Int16"
  | int32 => "Int32"
  | int64 => "Int64"
  | uint8 => "UInt8"
  | uint16 => "UInt16"
  | uint32 => "UInt32"

/-- All of them, in the order of a schema's type list. -/
def all : List IntType := [int8, int16, int32, int64, uint8, uint16, uint32]

/-- The least value. -/
def least : IntType → Int
  | int8 => -128
  | int16 => -32768
  | int32 => -2147483648
  | int64 => -9223372036854775808
  | uint8 | uint16 | uint32 => 0

/-- The greatest value. -/
def greatest : IntType → Int
  | int8 => 127
  | int16 => 32767
  | int32 => 2147483647
  | int64 => 9223372036854775807
  | uint8 => 255
  | uint16 => 65535
  | uint32 => 4294967295

/-- The value lies in the type's range. -/
def Holds (t : IntType) (i : Int) : Prop := t.least ≤ i ∧ i ≤ t.greatest

instance (t : IntType) (i : Int) : Decidable (t.Holds i) :=
  inferInstanceAs (Decidable (_ ∧ _))

/-- Every type's range lies inside that of 64 signed bits. -/
theorem Holds.int64 {t : IntType} {i : Int} (h : t.Holds i) : IntType.int64.Holds i := by
  obtain ⟨low, high⟩ := h
  cases t <;> simp only [Holds, least, greatest] at * <;> omega

/-- Every type holds zero. -/
theorem holds_zero (t : IntType) : t.Holds 0 := by cases t <;> decide

theorem mem_all (t : IntType) : t ∈ all := by cases t <;> decide

end IntType

end EntityTables
