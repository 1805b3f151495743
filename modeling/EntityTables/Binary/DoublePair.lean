/-
# EntityTables.Binary.DoublePair — numbers in doubled precision

A number kept as the unevaluated sum of two double precision numbers, the second of them the part
that the first has lost. Products are made of the halves of the mantissas, whose own products are
exact, so that little more than the last bits of the second part is lost.

* `DoublePair.ofNat` — an integer below `2 ^ 64`; `DoublePair.toDouble` — the nearest number.
* `DoublePair.times`, `DoublePair.scaled` — products; multiplying by a power of ten.
-/
import EntityTables.Binary.Arithmetic

namespace EntityTables

set_option autoImplicit false

/-- The sum of two numbers, the second of them small against the first. -/
structure DoublePair where
  high : Double
  low : Double
  deriving DecidableEq, Inhabited

namespace DoublePair

/-- The product of two such numbers. -/
def times (x y : DoublePair) : DoublePair :=
  let xTop := x.high.truncated
  let xRest := x.high.subtract xTop
  let yTop := y.high.truncated
  let yRest := y.high.subtract yTop
  let top := xTop.multiply yTop
  let middle := (xTop.multiply yRest).add (xRest.multiply yTop)
  let product := top.add middle
  let lost := ((top.subtract product).add middle).add (xRest.multiply yRest)
  let rest := ((x.high.multiply y.low).add (x.low.multiply y.high)).add lost
  let high := product.add rest
  ⟨high, (product.subtract high).add rest⟩

/-- An integer below `2 ^ 64`: the nearest number and what it misses, which is given up if the
nearest is `2 ^ 64` itself. -/
def ofNat (n : Nat) : DoublePair :=
  let high := Double.ofInt n
  match high.toInt? with
  | some i =>
    ⟨high, if i < (Binary.twoTo 64 : Int) then Double.ofInt (n - i) else Double.ofInt 0⟩
  | none => ⟨high, Double.ofInt 0⟩

/-- The number nearest to the sum. -/
def toDouble (x : DoublePair) : Double := x.high.add x.low

/-- Ten, its tenth and hundredth power. -/
def ten : DoublePair := ⟨Double.ofDecimal false 1 1, Double.ofInt 0⟩

@[inherit_doc ten]
def tenTenth : DoublePair := ⟨Double.ofDecimal false 1 10, Double.ofInt 0⟩

@[inherit_doc ten]
def tenHundredth : DoublePair :=
  ⟨Double.ofDecimal false 1 100, Double.ofDecimal true 15902891109759918046 64⟩

/-- The inverses of ten and of its tenth and hundredth power. -/
def perTen : DoublePair :=
  ⟨Double.ofDecimal false 1 (-1), Double.ofDecimal true 55511151231257827021 (-37)⟩

@[inherit_doc perTen]
def perTenTenth : DoublePair :=
  ⟨Double.ofDecimal false 1 (-10), Double.ofDecimal true 36432197315497741579 (-46)⟩

@[inherit_doc perTen]
def perTenHundredth : DoublePair :=
  ⟨Double.ofDecimal false 1 (-100), Double.ofDecimal true 199918998026028836196 (-137)⟩

/-- A number multiplied so many times by another. -/
def timesRepeated (x factor : DoublePair) : Nat → DoublePair
  | 0 => x
  | n + 1 => timesRepeated (x.times factor) factor n

/-- A number multiplied by a power of ten, by hundreds, tens and ones of the exponent. -/
def scaled (x : DoublePair) (exponent : Int) : DoublePair :=
  let n := exponent.natAbs
  let (hundred, ten, one) :=
    if exponent < 0 then (perTenHundredth, perTenTenth, perTen)
    else (tenHundredth, tenTenth, ten)
  ((x.timesRepeated hundred (n / 100)).timesRepeated ten (n % 100 / 10)).timesRepeated one (n % 10)

end DoublePair

end EntityTables
