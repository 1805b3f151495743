/-
# EntityTables.Json.Basic — JSON values

A value as its text gives it: numbers keep their digits, objects keep the order and the repetition
of their members. A string can be well formed and yet stand for no text, when it escapes half of a
surrogate pair; such a string is `none`.

* `Json` — the values; `Numeral` — a number as its digits; `JsonKey` — a member's key.
* `Numeral.toInt?` — the integer that a number written without fraction or exponent stands for.
-/

namespace EntityTables

set_option autoImplicit false

/-- A number as JSON writes it. -/
structure Numeral where
  negative : Bool
  /-- The digits before the point, without leading zeros. -/
  whole : List Char
  /-- The digits behind the point, none if there is no point. -/
  fraction : List Char
  /-- The exponent's sign and digits. -/
  exponent? : Option (Bool × List Char)
  deriving DecidableEq, Inhabited

/-- The number that decimal digits stand for. -/
def digitsValue (digits : List Char) : Nat :=
  digits.foldl (fun n c => n * 10 + (c.toNat - '0'.toNat)) 0

namespace Numeral

/-- The numeral of an integer. -/
def ofInt (i : Int) : Numeral := ⟨i < 0, Nat.toDigits 10 i.natAbs, [], none⟩

/-- The integer, if the number is written as one; a negative zero is not. -/
def toInt? (numeral : Numeral) : Option Int :=
  match numeral with
  | ⟨false, whole, [], none⟩ => some (digitsValue whole)
  | ⟨true, whole, [], none⟩ =>
    if digitsValue whole = 0 then none else some (-(digitsValue whole : Int))
  | _ => none

/-- The number's digits as one integer, and the power of ten that scales it. -/
def scaled (numeral : Numeral) : Nat × Int :=
  let exponent : Int := match numeral.exponent? with
    | none => 0
    | some (negative, digits) =>
      if negative then -(digitsValue digits : Int) else digitsValue digits
  (digitsValue (numeral.whole ++ numeral.fraction), exponent - numeral.fraction.length)

end Numeral

/-- Whether a character of a string has to be written as an escape. -/
def needsEscape (c : Char) : Bool := c == '"' || c == '\\' || c.toNat < 0x20

/-- The key of an object's member. -/
structure JsonKey where
  /-- The text; `none` if half of a surrogate pair is escaped. -/
  text? : Option String
  /-- Whether some character is written as an escape, which a key that is no text may not do. -/
  escaped : Bool
  deriving DecidableEq, Inhabited

/-- A text as a key, with no escape that it can do without. -/
def JsonKey.ofText (s : String) : JsonKey := ⟨some s, s.toList.any needsEscape⟩

/-- A JSON value. -/
inductive Json where
  | null
  | bool (b : Bool)
  | number (numeral : Numeral)
  /-- A string; `none` if it escapes half of a surrogate pair. -/
  | string (text? : Option String)
  | array (elements : List Json)
  | object (members : List (JsonKey × Json))
  deriving Inhabited

namespace Json

/-- A string that is a text. -/
def text (s : String) : Json := string (some s)

/-- An object whose keys are texts. -/
def record (members : List (String × Json)) : Json :=
  object (members.map fun member => (.ofText member.1, member.2))

/-- The number of an integer. -/
def int (i : Int) : Json := number (.ofInt i)

/-- The text of a string. -/
def text? : Json → Option String
  | string text? => text?
  | _ => none

/-- The truth value. -/
def bool? : Json → Option Bool
  | bool b => some b
  | _ => none

/-- The elements of an array. -/
def array? : Json → Option (List Json)
  | array elements => some elements
  | _ => none

/-- The members of an object. -/
def members? : Json → Option (List (JsonKey × Json))
  | object members => some members
  | _ => none

/-- The members of an object, if every key is a text. -/
def textMembers? (json : Json) : Option (List (String × Json)) := do
  (← json.members?).mapM fun member => member.1.text?.map fun key => (key, member.2)

end Json

end EntityTables
