/-
# EntityTables.Decimal.Approximate — decimals read in doubled precision

A decimal is cut to the digits that 64 bits hold, scaled by its power of ten in doubled precision,
and added up to a number. That is the number nearest to the decimal, or in rare cases its
neighbour; numbers below the normal ones may lose more.

* `approximate` — the number that a decimal reads as.
-/
import EntityTables.Binary.DoublePair

namespace EntityTables.Decimal

set_option autoImplicit false

/-- The number beyond which a digit more might not fit into 64 bits. -/
def digitLimit : Nat := 1844674407370955160

/-- The leading digits of a number, up to the first that reach the limit, and how many are left
out. -/
def leadingDigits : Nat → Nat → Nat × Nat
  | 0, n => (n, 0)
  | steps + 1, n =>
    if digitLimit ≤ n / 10 then
      let (digits, dropped) := leadingDigits steps (n / 10)
      (digits, dropped + 1)
    else (n, 0)

/-- Takes powers of ten into the digits while they fit. -/
def takeTens : Nat → Nat × Int → Nat × Int
  | 0, d => d
  | steps + 1, (digits, exponent) =>
    if 0 < exponent ∧ digits < 1844674407370954956 then takeTens steps (digits * 10, exponent - 1)
    else (digits, exponent)

/-- Gives zeros at the end of the digits up to a negative power of ten. -/
def giveTens : Nat → Nat × Int → Nat × Int
  | 0, d => d
  | steps + 1, (digits, exponent) =>
    if exponent < 0 ∧ digits % 10 = 0 then giveTens steps (digits / 10, exponent + 1)
    else (digits, exponent)

/-- The number that `digits · 10 ^ exponent` reads as. Of powers of ten beyond the five hundredth
nothing remains but infinity or zero. -/
def approximate (digits : Nat) (exponent : Int) : Double :=
  let (digits, dropped) := leadingDigits (digits.log2 + 1) digits
  if digits = 0 then Double.ofInt 0
  else
    let (digits, exponent) := giveTens 20 (takeTens 20 (digits, exponent + dropped))
    let x := ((DoublePair.ofNat digits).scaled (max (-500) (min 500 exponent))).toDouble
    if x.isNaN then Double.ofReading (.infinity false) else x

end EntityTables.Decimal
