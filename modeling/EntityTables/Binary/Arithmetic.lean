/-
# EntityTables.Binary.Arithmetic — sums and products of double precision numbers

Each operation computes its exact result and takes the number nearest to it, ties to the even one.
A sum that vanishes exactly is the positive zero unless both its terms are negative zeros.

* `Double.negate`, `Double.add`, `Double.subtract`, `Double.multiply`.
* `Double.truncated` — the number without the lower half of its mantissa.
-/
import EntityTables.Binary.Number

namespace EntityTables

set_option autoImplicit false

namespace Double

open Binary

/-- The number that a reading stands for. -/
def ofReading (reading : Reading) : Double := ⟨((Format.of .double).ofReading reading).toUInt64⟩

/-- The number with the other sign. -/
def negate (x : Double) : Double := ⟨x.bits ^^^ (0x8000000000000000 : UInt64)⟩

/-- The number nearest to the sum of two numbers. -/
def add (x y : Double) : Double :=
  match x.read, y.read with
  | .notANumber, _ | _, .notANumber => ofReading .notANumber
  | .infinity a, .infinity b => ofReading (if a = b then .infinity a else .notANumber)
  | .infinity a, .finite _ _ _ => ofReading (.infinity a)
  | .finite _ _ _, .infinity b => ofReading (.infinity b)
  | .finite a m p, .finite b n q =>
    let least := min p q
    let sum :=
      withSign a (m * twoTo (p - least).toNat) + withSign b (n * twoTo (q - least).toNat)
    ofReading (.finite (if sum = 0 then a && b else sum < 0) sum.natAbs least)

/-- The number nearest to the difference of two numbers. -/
def subtract (x y : Double) : Double := x.add y.negate

/-- The number nearest to the product of two numbers. -/
def multiply (x y : Double) : Double :=
  match x.read, y.read with
  | .notANumber, _ | _, .notANumber => ofReading .notANumber
  | .infinity a, .infinity b => ofReading (.infinity (a != b))
  | .infinity a, .finite b n _ =>
    ofReading (if n = 0 then .notANumber else .infinity (a != b))
  | .finite a m _, .infinity b =>
    ofReading (if m = 0 then .notANumber else .infinity (a != b))
  | .finite a m p, .finite b n q => ofReading (.finite (a != b) (m * n) (p + q))

/-- The number with the lower half of its mantissa's bits cleared, so that the product of two such
numbers is exact. -/
def truncated (x : Double) : Double := ⟨x.bits &&& (0xfffffffffc000000 : UInt64)⟩

/-- Whether one number is less than another; what is no number is neither less nor greater. -/
def less (x y : Double) : Bool := x.compare? y == some .lt

end Double

end EntityTables
