/-
# EntityTables.Decimal.Significant — a fixed number of significant digits

A positive number is scaled in doubled precision until eighteen or nineteen digits stand before its
point; what is behind the point is dropped, and the digits are rounded to the number of places
asked for, a half going up.

* `significant` — digits and power of ten; zeros at the end are dropped.
-/
import EntityTables.Binary.DoublePair
import EntityTables.Decimal.Shortest

namespace EntityTables.Decimal

set_option autoImplicit false

/-- A number multiplied by a factor, which is a power of ten, again and again while a condition on
it holds; and the power of ten that makes up for it. -/
def scaledWhile (holds : Double → Bool) (factor : DoublePair) (power : Int) :
    Nat → DoublePair × Int → DoublePair × Int
  | 0, d => d
  | steps + 1, (x, exponent) =>
    if holds x.high then
      scaledWhile holds factor power steps (x.times factor, exponent - power)
    else (x, exponent)

/-- A positive number as a sum of two and a power of ten, the sum at most `2 ^ 63` and more than a
tenth of it. -/
def scaledToDigits (x : Double) : DoublePair × Int :=
  let start : DoublePair × Int := (⟨x, Double.ofInt 0⟩, 0)
  let limit (exponent : Int) := Double.ofDecimal false 9223372036854774784 exponent
  let ones := Double.ofDecimal false 922337203685477478 0
  if (limit 0).less x then
    let large := scaledWhile (limit 100).less .perTenHundredth (-100) 4 start
    let middle := scaledWhile (limit 10).less .perTenTenth (-10) 12 large
    scaledWhile (limit 0).less .perTen (-1) 12 middle
  else
    let small := scaledWhile (·.less (limit (-101))) .tenHundredth 100 4 start
    let middle := scaledWhile (·.less (limit (-11))) .tenTenth 10 12 small
    scaledWhile (·.less ones) .ten 1 12 middle

/-- The integer that a positive number is, without what is behind its point. -/
def wholePart (x : Double) : Nat :=
  match x.read with
  | .finite _ mantissa exponent =>
    let (top, bottom) := Binary.Format.scale mantissa 1 exponent
    top / bottom
  | _ => 0

/-- A positive number in so many significant digits, as `digits · 10 ^ power`. -/
def significant (places : Nat) (x : Double) : Nat × Int :=
  let (pair, exponent) := scaledToDigits x
  let high := wholePart pair.high
  let low := wholePart pair.low
  let digits := if pair.low.less (Double.ofInt 0) then high - low else high + low
  let surplus := (Nat.toDigits 10 digits).length - places
  let half := Binary.tenTo surplus / 2
  dropZeros places ((digits + half) / Binary.tenTo surplus, exponent + surplus)

end EntityTables.Decimal
