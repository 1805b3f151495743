/-
# EntityTables.Binary.Number — single and double precision numbers

Numbers are kept as their bit patterns, so that equality tells zeros apart and a number that is no
number equals itself.

* `Single`, `Double` — the patterns; `Single.toDouble` widens, `Double.toSingle` rounds.
* `Double.ofInt`, `Double.ofDecimal` — the number nearest to an integer, to a decimal.
* `Double.compareInt`, `Double.compare?` — order by value.
-/
import EntityTables.Binary.Format

namespace EntityTables

set_option autoImplicit false

/-- A single precision number, as its bits. -/
structure Single where
  bits : UInt32
  deriving DecidableEq, Inhabited

/-- A double precision number, as its bits. -/
structure Double where
  bits : UInt64
  deriving DecidableEq, Inhabited

namespace Binary

/-- The order of `a · 2 ^ p` and `b · 2 ^ q`. -/
def compareScaled (a : Int) (p : Int) (b : Int) (q : Int) : Ordering :=
  let least := min p q
  compare (a * twoTo (p - least).toNat) (b * twoTo (q - least).toNat)

/-- A number with its sign. -/
def withSign (negative : Bool) (n : Nat) : Int := if negative then -(n : Int) else n

end Binary

open Binary

namespace Single

/-- What the bits stand for. -/
def read (x : Single) : Reading := (Format.of .single).read x.bits.toNat

/-- The same number in double precision. -/
def toDouble (x : Single) : Double := ⟨((Format.of .double).ofReading x.read).toUInt64⟩

end Single

namespace Double

/-- What the bits stand for. -/
def read (x : Double) : Reading := (Format.of .double).read x.bits.toNat

/-- Whether the bits stand for no number. -/
def isNaN (x : Double) : Bool := x.read == .notANumber

/-- The nearest single precision number, ties to the even one. -/
def toSingle (x : Double) : Single := ⟨((Format.of .single).ofReading x.read).toUInt32⟩

/-- The number nearest to an integer. -/
def ofInt (i : Int) : Double := ⟨((Format.of .double).ofBinary (i < 0) i.natAbs 0).toUInt64⟩

/-- The number nearest to `± digits · 10 ^ exponent`. -/
def ofDecimal (negative : Bool) (digits : Nat) (exponent : Int) : Double :=
  ⟨((Format.of .double).ofDecimal negative digits exponent).toUInt64⟩

/-- Whether the number is neither infinite nor no number. -/
def isFinite (x : Double) : Bool :=
  match x.read with
  | .finite _ _ _ => true
  | _ => false

/-- The integer that the number is, if it is one. -/
def toInt? (x : Double) : Option Int :=
  match x.read with
  | .finite negative mantissa exponent =>
    match exponent with
    | .ofNat n => some (withSign negative (mantissa * twoTo n))
    | .negSucc n =>
      if mantissa % twoTo (n + 1) = 0 then some (withSign negative (mantissa / twoTo (n + 1)))
      else none
  | _ => none

/-- The order of two numbers by value; what is no number has no order. -/
def compare? (x y : Double) : Option Ordering :=
  match x.read, y.read with
  | .notANumber, _ | _, .notANumber => none
  | .infinity a, .infinity b => some (compare b.toNat a.toNat)
  | .infinity negative, _ => some (if negative then .lt else .gt)
  | _, .infinity negative => some (if negative then .gt else .lt)
  | .finite a m p, .finite b n q => some (compareScaled (withSign a m) p (withSign b n) q)

/-- The order of a number and an integer by value; what is no number comes first. -/
def compareInt (x : Double) (i : Int) : Ordering :=
  match x.read with
  | .notANumber => .lt
  | .infinity negative => if negative then .lt else .gt
  | .finite negative mantissa exponent =>
    compareScaled (withSign negative mantissa) exponent i 0

end Double

end EntityTables
