/-
# EntityTables.Binary.Format — binary floating point numbers as bits

A format has a number of fraction bits and of exponent bits. Its bit patterns stand for finite
numbers `± m · 2 ^ q`, two infinities and the patterns that are no number; and every quotient of
natural numbers has a nearest pattern, ties going to the even one. All of it is integer arithmetic.

* `Format.read` — what a pattern stands for; `Format.nearest` — the pattern of a quotient.
-/
import EntityTables.Schema.DeclaredType

namespace EntityTables

set_option autoImplicit false

namespace Binary

/-- A power of two. -/
def twoTo (n : Nat) : Nat := Nat.pow 2 n

/-- A power of ten. -/
def tenTo (n : Nat) : Nat := Nat.pow 10 n

/-- A format with its number of fraction bits and of exponent bits. -/
structure Format where
  fractionBits : Nat
  exponentBits : Nat
  deriving DecidableEq, Inhabited

/-- What a bit pattern stands for. -/
inductive Reading where
  | notANumber
  | infinity (negative : Bool)
  /-- The number `± mantissa · 2 ^ exponent`. -/
  | finite (negative : Bool) (mantissa : Nat) (exponent : Int)
  deriving DecidableEq, Inhabited

namespace Format

/-- The format of a precision. -/
def of : Precision → Format
  | .single => ⟨23, 8⟩
  | .double => ⟨52, 11⟩

/-- The exponent of the smallest numbers. -/
def leastExponent (format : Format) : Int :=
  2 - (twoTo (format.exponentBits - 1) : Int) - format.fractionBits

/-- The pattern of infinity, without its sign. -/
def infinityBits (format : Format) : Nat :=
  (twoTo format.exponentBits - 1) * twoTo format.fractionBits

/-- The canonical pattern that is no number. -/
def nanBits (format : Format) : Nat :=
  format.infinityBits + twoTo (format.fractionBits - 1)

/-- The weight of the sign bit. -/
def signBit (format : Format) : Nat := twoTo (format.fractionBits + format.exponentBits)

/-- What a pattern stands for. -/
def read (format : Format) (bits : Nat) : Reading :=
  let negative := bits / format.signBit % 2 == 1
  let fraction := bits % twoTo format.fractionBits
  let exponent := bits / twoTo format.fractionBits % twoTo format.exponentBits
  if exponent = twoTo format.exponentBits - 1 then
    if fraction = 0 then .infinity negative else .notANumber
  else if exponent = 0 then .finite negative fraction format.leastExponent
  else
    .finite negative (twoTo format.fractionBits + fraction) (format.leastExponent + (exponent - 1))

/-- The natural number nearest to a quotient, ties to the even one. -/
def roundEven (numerator denominator : Nat) : Nat :=
  let whole := numerator / denominator
  let twice := 2 * (numerator % denominator)
  if twice < denominator then whole
  else if denominator < twice then whole + 1
  else whole + whole % 2

/-- A quotient multiplied by a power of two. -/
def scale (numerator denominator : Nat) (exponent : Int) : Nat × Nat :=
  match exponent with
  | .ofNat n => (numerator * twoTo n, denominator)
  | .negSucc n => (numerator, denominator * twoTo (n + 1))

/-- The greatest `e` with `2 ^ e ≤ numerator / denominator`, both positive. -/
def floorLog (numerator denominator : Nat) : Int :=
  let guess : Int := (numerator.log2 : Int) - denominator.log2
  let (low, high) := scale denominator numerator guess
  if low ≤ high then guess else guess - 1

/-- The pattern nearest to a quotient, ties to the even one; too large a quotient is infinite. -/
def nearest (format : Format) (numerator denominator : Nat) : Nat :=
  if numerator = 0 then 0
  else
    let exponent :=
      max format.leastExponent (floorLog numerator denominator - format.fractionBits)
    let (top, bottom) := scale numerator denominator (-exponent)
    let mantissa := roundEven top bottom
    let bits :=
      if mantissa < twoTo format.fractionBits then mantissa
      else
        (exponent - format.leastExponent + 1).toNat * twoTo format.fractionBits +
          (mantissa - twoTo format.fractionBits)
    min bits format.infinityBits

/-- A pattern with its sign. -/
def signed (format : Format) (negative : Bool) (bits : Nat) : Nat :=
  if negative then format.signBit + bits else bits

/-- The pattern nearest to `± mantissa · 2 ^ exponent`. -/
def ofBinary (format : Format) (negative : Bool) (mantissa : Nat) (exponent : Int) : Nat :=
  let (top, bottom) := scale mantissa 1 exponent
  format.signed negative (format.nearest top bottom)

/-- The pattern of a reading. -/
def ofReading (format : Format) : Reading → Nat
  | .notANumber => format.nanBits
  | .infinity negative => format.signed negative format.infinityBits
  | .finite negative mantissa exponent => format.ofBinary negative mantissa exponent

/-- The pattern nearest to `± digits · 10 ^ exponent`. Powers far outside the format's range are
settled without computing them. -/
def ofDecimal (format : Format) (negative : Bool) (digits : Nat) (exponent : Int) : Nat :=
  if digits = 0 then format.signed negative 0
  else
    let size : Int := (Nat.toDigits 10 digits).length + exponent
    if size > 400 then format.signed negative format.infinityBits
    else if size < -400 then format.signed negative 0
    else
      match exponent with
      | .ofNat n => format.signed negative (format.nearest (digits * tenTo n) 1)
      | .negSucc n => format.signed negative (format.nearest digits (tenTo (n + 1)))

end Format

end Binary

end EntityTables
