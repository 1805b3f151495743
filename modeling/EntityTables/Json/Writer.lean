/-
# EntityTables.Json.Writer — JSON text without blanks

Members and elements are separated by single commas. A string escapes its quotes, its backslashes
and the controls below U+0020: five of them by a letter, the others by number. A string that stands
for no text is written like `null`, since it has none.

* `Json.chars`, `Json.render` — the text of a value.
-/
import EntityTables.Json.Basic

namespace EntityTables

set_option autoImplicit false

/-- One character of a string. -/
def jsonEscape (c : Char) : List Char :=
  match c with
  | '"' => ['\\', '"']
  | '\\' => ['\\', '\\']
  | '\x08' => ['\\', 'b']
  | '\x0c' => ['\\', 'f']
  | '\n' => ['\\', 'n']
  | '\r' => ['\\', 'r']
  | '\t' => ['\\', 't']
  | _ =>
    if c.toNat < 0x20 then
      ['\\', 'u', '0', '0', Nat.digitChar (c.toNat / 16), Nat.digitChar (c.toNat % 16)]
    else [c]

/-- A text between double quotes. -/
def jsonString (s : String) : List Char := '"' :: s.toList.flatMap jsonEscape ++ ['"']

/-- A number: sign, digits, fraction and signed exponent. -/
def Numeral.chars (numeral : Numeral) : List Char :=
  (if numeral.negative then ['-'] else []) ++ numeral.whole ++
    (if numeral.fraction.isEmpty then [] else '.' :: numeral.fraction) ++
    match numeral.exponent? with
    | none => []
    | some (negative, digits) => 'e' :: (if negative then '-' else '+') :: digits

/-- Parts with a comma between them. -/
def joinCommas : List (List Char) → List Char
  | [] => []
  | [part] => part
  | part :: rest => part ++ ',' :: joinCommas rest

namespace Json

mutual
/-- The text of a value. -/
def chars : Json → List Char
  | null => ['n', 'u', 'l', 'l']
  | bool true => ['t', 'r', 'u', 'e']
  | bool false => ['f', 'a', 'l', 's', 'e']
  | number numeral => numeral.chars
  | string none => ['n', 'u', 'l', 'l']
  | string (some s) => jsonString s
  | array elements => '[' :: joinCommas (elementChars elements) ++ [']']
  | object members => '\x7b' :: joinCommas (memberChars members) ++ ['\x7d']

/-- The texts of an array's elements. -/
def elementChars : List Json → List (List Char)
  | [] => []
  | element :: rest => element.chars :: elementChars rest

/-- The texts of an object's members. -/
def memberChars : List (JsonKey × Json) → List (List Char)
  | [] => []
  | (key, value) :: rest =>
    ((match key.text? with
      | some key => jsonString key
      | none => jsonString "") ++ ':' :: value.chars) :: memberChars rest
end

/-- The text of a value. -/
def render (json : Json) : String := String.ofList json.chars

end Json

end EntityTables
