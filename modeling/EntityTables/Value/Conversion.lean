/-
# EntityTables.Value.Conversion — fields and the values that hold them

Dates are held as milliseconds since 1970, truth values as one and zero, characters as texts of
one, and narrow integers are read back only within their range.

* `Instant.toStored`, `Instant.ofStored`; `Bool.toStored`, `Bool.ofStored`; `narrow`; `textToChar`.
-/
import EntityTables.Calendar.Instant
import EntityTables.Error

namespace EntityTables

set_option autoImplicit false

/-- A date as it is held. -/
def Instant.toStored (instant : Instant) : Int64 := Int64.ofInt instant.millis

/-- The date that a held value stands for. -/
def Instant.ofStored (column : String) (millis : Int64) : Except Error Instant :=
  match ofMillis? millis.toInt with
  | some instant => .ok instant
  | none => .error (.decode column (.dateRange millis.toInt))

/-- A truth value as it is held. -/
def storedBool (b : Bool) : Int64 := if b then 1 else 0

/-- The truth value of a held one: only a one is true. -/
def boolOfStored (i : Int64) : Bool := i == 1

/-- The values of an integer type. -/
abbrev IntType.Range (type : IntType) : Type := { i : Int // type.Holds i }

/-- A value of an integer type as it is held. -/
def IntType.Range.toStored {type : IntType} (i : type.Range) : Int64 := Int64.ofInt i.1

/-- The value of an integer type that a held one stands for, if it is in range. -/
def narrow (type : IntType) (column : String) (value : Int64) : Except Error type.Range :=
  if holds : type.Holds value.toInt then .ok ⟨value.toInt, holds⟩
  else .error (.decode column (.narrowing value.toInt type))

/-- The only character of a text. -/
def textToChar (column text : String) : Except Error Char :=
  match text.toList with
  | [c] => .ok c
  | _ => .error (.decode column (.notOneChar text))

end EntityTables
