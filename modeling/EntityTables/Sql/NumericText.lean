/-
# EntityTables.Sql.NumericText — texts that read as numbers

Blanks at both ends, a sign, digits with or without a point, and perhaps a power of ten; at least
one digit has to stand before the power. Nothing else is a number.

* `NumericText.read?` — the parts of such a text; `numberOfText?` — its value: an integer if it is
  written as one and fits, a real number otherwise.
-/
import EntityTables.Decimal.Approximate
import EntityTables.Value.Basic

namespace EntityTables.Sql

set_option autoImplicit false

/-- A number as text: `± digits · 10 ^ exponent`, with a point or a power of ten unless it is
`whole`. -/
structure NumericText where
  whole : Bool
  negative : Bool
  digits : Nat
  exponent : Int
  deriving DecidableEq, Inhabited

namespace NumericText

/-- The blanks that may surround a number. -/
def isSpace (c : Char) : Bool := c == ' ' || ('\t' ≤ c && c ≤ '\r')

/-- A text without the blanks at its ends. -/
def trim (cs : List Char) : List Char :=
  ((cs.dropWhile isSpace).reverse.dropWhile isSpace).reverse

/-- A sign, if there is one, and the rest. -/
def readSign : List Char → Bool × List Char
  | '-' :: rest => (true, rest)
  | '+' :: rest => (false, rest)
  | cs => (false, cs)

/-- The number that digits spell. -/
def spelled (digits : List Char) : Nat :=
  digits.foldl (fun n d => n * 10 + (d.toNat - '0'.toNat)) 0

/-- Whether there is a point, the digits behind it, and the rest. -/
def readFraction : List Char → Bool × List Char × List Char
  | '.' :: rest => (true, rest.takeWhile Char.isDigit, rest.dropWhile Char.isDigit)
  | cs => (false, [], cs)

/-- A power of ten that ends a number; none behind anything else. -/
def readPower? (cs : List Char) : Option (Option Int) :=
  match cs with
  | [] => some none
  | c :: rest =>
    let (negative, digits) := readSign rest
    if (c = 'e' ∨ c = 'E') ∧ digits ≠ [] ∧ digits.all Char.isDigit then
      some (some (Binary.withSign negative (spelled digits)))
    else none

/-- The number that a text reads as. -/
def read? (cs : List Char) : Option NumericText :=
  let (negative, cs) := readSign (trim cs)
  let whole := cs.takeWhile Char.isDigit
  let (point, fraction, rest) := readFraction (cs.dropWhile Char.isDigit)
  match readPower? rest with
  | none => none
  | some power? =>
    if whole.isEmpty && fraction.isEmpty then none
    else some
      { whole := !point && power?.isNone
        negative := negative
        digits := spelled (whole ++ fraction)
        exponent := power?.getD 0 - fraction.length }

/-- The value of a number: an integer if it is written as one and fits into 64 bits. -/
def value (number : NumericText) : Value :=
  let i := Binary.withSign number.negative number.digits
  if number.whole ∧ IntType.int64.Holds i then .integer (.ofInt i)
  else
    let x := Decimal.approximate number.digits number.exponent
    .real (if number.negative then x.negate else x)

end NumericText

/-- The value of a text that reads as a number. -/
def numberOfText? (text : String) : Option Value :=
  (NumericText.read? text.toList).map NumericText.value

end EntityTables.Sql
