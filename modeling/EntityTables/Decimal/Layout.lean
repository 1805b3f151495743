/-
# EntityTables.Decimal.Layout — how a shortest decimal is laid out

Which powers of ten are written positionally, whether a whole number shows a point, and what stands
for infinity and for what is no number. Two layouts are in use: plain text, always positional, and
JSON, scientific for the very large and very small.

* `positional`, `scientific` — the two notations; `Layout.plain`, `Double.toNumeral?` — their uses.
-/
import EntityTables.Decimal.Shortest
import EntityTables.Json.Basic

namespace EntityTables

set_option autoImplicit false

namespace Decimal

/-- The digits before and behind the point of `digits · 10 ^ exponent`. -/
def positional (digits : List Char) (exponent : Int) : List Char × List Char :=
  match exponent with
  | .ofNat n => (digits ++ List.replicate n '0', [])
  | .negSucc n =>
    let places := n + 1
    if places < digits.length then
      (digits.take (digits.length - places), digits.drop (digits.length - places))
    else (['0'], List.replicate (places - digits.length) '0' ++ digits)

/-- One digit before the point, the others behind it, and the exponent. -/
def scientific (digits : List Char) (exponent : Int) : List Char × List Char × Int :=
  (digits.take 1, digits.drop 1, exponent + (digits.length - 1 : Nat))

end Decimal

namespace Double

/-- Sign, shortest digits and power of ten of a finite number; zero is the digit zero. -/
def decimal (tie : Decimal.Tie) (mantissa : Nat) (exponent : Int) : List Char × Int :=
  if mantissa = 0 then (['0'], 0)
  else
    let (digits, power) := Decimal.shortest tie (Binary.Format.of .double) mantissa exponent
    (Nat.toDigits 10 digits, power)

/-- The number as plain text: positional, without a point if it is whole. -/
def display (x : Double) : String :=
  match x.read with
  | .notANumber => "NaN"
  | .infinity negative => if negative then "-inf" else "inf"
  | .finite negative mantissa exponent =>
    let (digits, power) := decimal .upward mantissa exponent
    let (whole, fraction) := Decimal.positional digits power
    String.ofList ((if negative then ['-'] else []) ++ whole ++
      if fraction.isEmpty then [] else '.' :: fraction)

/-- The number as JSON writes it: positional from 1e-5 up to, but not at, 1e16, with at least one
place behind the point, and scientific otherwise. Only finite numbers have a numeral. -/
def toNumeral? (x : Double) : Option Numeral :=
  match x.read with
  | .finite negative mantissa exponent =>
    let (digits, power) := decimal .toEven mantissa exponent
    let leading : Int := power + (digits.length - 1 : Nat)
    if -5 ≤ leading ∧ leading < 16 then
      let (whole, fraction) := Decimal.positional digits power
      some ⟨negative, whole, if fraction.isEmpty then ['0'] else fraction, none⟩
    else
      let (whole, fraction, power) := Decimal.scientific digits power
      some ⟨negative, whole, fraction, some (power < 0, Nat.toDigits 10 power.natAbs)⟩
  | _ => none

/-- The number nearest to a numeral, unless that is infinite. -/
def ofNumeral? (numeral : Numeral) : Option Double :=
  let (digits, exponent) := numeral.scaled
  let x := ofDecimal numeral.negative digits exponent
  if x.isFinite then some x else none

end Double

end EntityTables
