/-
# EntityTables.Toml.Scalar — values without quotes or brackets

Truth values, integers in four bases, real numbers, dates and times. Underscores may stand between
digits, and a decimal number has no superfluous zeros in front.

* `integer?`, `real?`, `scalar?` — what a word spells.
-/
import EntityTables.Json.Reader
import EntityTables.Toml.Basic

namespace EntityTables.Toml

set_option autoImplicit false

/-- The number that digits of a base spell; an underscore may stand between two digits. -/
def spelled? (base : Nat) (number : Nat) (afterDigit : Bool) : List Char → Option Nat
  | [] => if afterDigit then some number else none
  | c :: rest =>
    if c = '_' then if afterDigit then spelled? base number false rest else none
    else
      match Json.hexValue? c with
      | some digit =>
        if digit < base then spelled? base (number * base + digit) true rest else none
      | none => none

/-- A sign, if there is one, and the rest. -/
def readSign : List Char → Bool × List Char
  | '-' :: rest => (true, rest)
  | '+' :: rest => (false, rest)
  | cs => (false, cs)

/-- The number that decimal digits without superfluous zeros spell. -/
def decimal? : List Char → Option Nat
  | ['0'] => some 0
  | '0' :: _ => none
  | cs => spelled? 10 0 false cs

/-- The integer that a word spells, in base ten with a sign, or in another base without. -/
def integer? (word : List Char) : Option Int :=
  let number? := match word with
    | '0' :: 'x' :: digits => (spelled? 16 0 false digits).map Int.ofNat
    | '0' :: 'o' :: digits => (spelled? 8 0 false digits).map Int.ofNat
    | '0' :: 'b' :: digits => (spelled? 2 0 false digits).map Int.ofNat
    | _ =>
      let (negative, digits) := readSign word
      (decimal? digits).map (Binary.withSign negative)
  match number? with
  | some i => if IntType.int64.Holds i then some i else none
  | none => none

/-- The digits behind a point, if there is one, and the rest. -/
def readFraction : List Char → List Char × List Char
  | '.' :: rest => (rest.takeWhile (· != 'e'), rest.dropWhile (· != 'e'))
  | cs => ([], cs)

/-- The power of ten at the end of a number; none behind anything else. -/
def readPower? : List Char → Option Int
  | [] => some 0
  | _ :: rest =>
    let (negative, digits) := readSign rest
    (spelled? 10 0 false digits).map (Binary.withSign negative)

/-- The number that digits with a point, a power of ten, or both spell. -/
def decimalFraction? (negative : Bool) (body : List Char) : Option Double :=
  let wholeDigits := body.takeWhile fun c => c != '.' && c != 'e'
  let rest := body.dropWhile fun c => c != '.' && c != 'e'
  let (fraction, power) := readFraction rest
  let places := (fraction.filter (· != '_')).length
  match decimal? wholeDigits, readPower? power with
  | some whole, some exponent =>
    if rest.isEmpty then none
    else if rest.head? = some '.' then
      (spelled? 10 0 false fraction).map fun part =>
        Double.ofDecimal negative (whole * Binary.tenTo places + part) (exponent - places)
    else some (Double.ofDecimal negative whole exponent)
  | _, _ => none

/-- The real number that a word spells. It is infinite only if the word says so. -/
def real? (word : List Char) : Option Double :=
  let (negative, body) := readSign word
  if body = ['i', 'n', 'f'] then
    some ⟨((Binary.Format.of .double).ofReading (.infinity negative)).toUInt64⟩
  else if body = ['n', 'a', 'n'] then
    some ⟨((Binary.Format.of .double).ofReading .notANumber).toUInt64⟩
  else
    match decimalFraction? negative (body.map Char.toLower) with
    | some x => if x.isFinite then some x else none
    | none => none

/-- The value of a word without quotes or brackets. -/
def scalar? (word : List Char) : Option Value :=
  if word = ['t', 'r', 'u', 'e'] then some (.boolean true)
  else if word = ['f', 'a', 'l', 's', 'e'] then some (.boolean false)
  else
    match integer? word with
    | some i => some (.integer i)
    | none =>
      match real? word with
      | some x => some (.real x)
      | none => (Moment.read? word).map .moment

end EntityTables.Toml
