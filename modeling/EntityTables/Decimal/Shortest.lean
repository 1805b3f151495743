/-
# EntityTables.Decimal.Shortest — the fewest digits that read back

A finite number `m · 2 ^ q` is the nearest to every real of an interval around it, ends included
if `m` is even. Among the decimals in that interval the shortest are sought: for one digit, two
digits and so on, the number's two neighbours on that decimal grid are tried, and the first grid
with a hit wins. Of two hits the nearer is taken.

* `shortest` — digits and power of ten of that decimal.
-/
import EntityTables.Binary.Number

namespace EntityTables.Decimal

set_option autoImplicit false

/-- Which of two equally near decimals is taken. -/
inductive Tie where
  | upward
  | toEven
  deriving DecidableEq, Inhabited

/-- The interval of reals that round to a number, and the number, over one denominator. -/
structure Interval where
  low : Nat
  value : Nat
  high : Nat
  denominator : Nat
  /-- Whether the ends round to the number as well. -/
  closed : Bool
  deriving Inhabited

/-- The interval of a positive number of a format. Just above a power of two the numbers lie twice
as dense below as above. -/
def Interval.of (format : Binary.Format) (mantissa : Nat) (exponent : Int) : Interval :=
  let narrow := mantissa = Binary.twoTo format.fractionBits ∧ format.leastExponent < exponent
  let (top, bottom) := Binary.Format.scale 1 4 exponent
  ⟨(4 * mantissa - if narrow then 1 else 2) * top, 4 * mantissa * top, (4 * mantissa + 2) * top,
    bottom, mantissa % 2 == 0⟩

/-- Whether `digits · unit` lies in the interval, where `unit` is a quotient. -/
def Interval.has (i : Interval) (digits numerator denominator : Nat) : Bool :=
  let x := digits * numerator * i.denominator
  if i.closed then i.low * denominator ≤ x && x ≤ i.high * denominator
  else i.low * denominator < x && x < i.high * denominator

/-- Ten to a power, as a quotient. -/
def powerOfTen (exponent : Int) : Nat × Nat :=
  match exponent with
  | .ofNat n => (Binary.tenTo n, 1)
  | .negSucc n => (1, Binary.tenTo (n + 1))

/-- The neighbour on the grid of a power of ten that lies in the interval, the nearer of two. -/
def Interval.onGrid? (tie : Tie) (i : Interval) (exponent : Int) : Option Nat :=
  let (numerator, denominator) := powerOfTen exponent
  let step := numerator * i.denominator
  let value := i.value * denominator
  let below := value / step
  let above := below + 1
  match i.has below numerator denominator && below != 0, i.has above numerator denominator with
  | false, false => none
  | true, false => some below
  | false, true => some above
  | true, true =>
    let past := 2 * (value - below * step)
    if past < step then some below
    else if step < past then some above
    else
      match tie with
      | .upward => some above
      | .toEven => some (if below % 2 = 0 then below else above)

/-- The first grid, from coarse to fine, with a hit. -/
def Interval.firstGrid (tie : Tie) (i : Interval) : Nat → Int → Nat × Int
  | 0, exponent => (i.value / i.denominator, exponent)
  | steps + 1, exponent =>
    match i.onGrid? tie exponent with
    | some digits => (digits, exponent)
    | none => i.firstGrid tie steps (exponent - 1)

/-- Drops the zeros at the end of digits and counts them. -/
def dropZeros : Nat → Nat × Int → Nat × Int
  | 0, d => d
  | steps + 1, (digits, exponent) =>
    if digits % 10 = 0 ∧ digits ≠ 0 then dropZeros steps (digits / 10, exponent + 1)
    else (digits, exponent)

/-- An exponent at which the grid is coarser than a number `m · 2 ^ q`. -/
def coarseExponent (mantissa : Nat) (exponent : Int) : Int :=
  ((mantissa.log2 : Int) + 1 + exponent) * 30103 / 100000 + 1

/-- The shortest decimal that reads back as `mantissa · 2 ^ exponent`, as `digits · 10 ^ power`. -/
def shortest (tie : Tie) (format : Binary.Format) (mantissa : Nat) (exponent : Int) : Nat × Int :=
  let i := Interval.of format mantissa exponent
  dropZeros 400 (i.firstGrid tie 20 (coarseExponent mantissa exponent))

end EntityTables.Decimal
