/-
# EntityTables.Json.Reader — reading JSON text

Reads exactly the JSON grammar: no leading zeros, no comments, no trailing commas, no raw controls
in strings, and nothing but blanks behind the value. A string's escapes are read as units first and
joined into characters afterwards, so that half of a surrogate pair is no fault of the grammar. Nor
is a byte inside a string that belongs to no character: text is read as characters, with `none` for
each such byte. Values may be nested to any depth.

* `readString`, `readKey`, `readNumeral`, `readValue` — one item and the text behind it.
* `Json.ofScan?`, `Json.ofText?` — the value of a whole text.
-/
import EntityTables.Json.Basic

namespace EntityTables

set_option autoImplicit false

namespace Json

/-- The four characters that may stand between tokens. -/
def isSpace (c : Char) : Bool := c == ' ' || c == '\n' || c == '\t' || c == '\r'

/-- The text behind its leading blanks. -/
def skipSpace (cs : List (Option Char)) : List (Option Char) := cs.dropWhile (·.any isSpace)

/-- The value of a hexadecimal digit. -/
def hexValue? (c : Char) : Option Nat :=
  if '0' ≤ c ∧ c ≤ '9' then some (c.toNat - '0'.toNat)
  else if 'a' ≤ c ∧ c ≤ 'f' then some (c.toNat - 'a'.toNat + 10)
  else if 'A' ≤ c ∧ c ≤ 'F' then some (c.toNat - 'A'.toNat + 10)
  else none

/-- The number that four hexadecimal digits stand for. -/
def hexQuad? (a b c d : Char) : Option Nat := do
  let a ← hexValue? a
  let b ← hexValue? b
  let c ← hexValue? c
  let d ← hexValue? d
  return ((a * 16 + b) * 16 + c) * 16 + d

/-- A piece of a string: a character as it stands, a byte that belongs to none, a character behind
a backslash, or a 16-bit unit given by its number. -/
inductive Piece where
  | char (c : Char)
  | broken
  | escape (c : Char)
  | unit (n : Nat)
  deriving DecidableEq, Inhabited

/-- Whether a piece is more than a character as it stands. -/
def Piece.isEscape : Piece → Bool
  | char _ | broken => false
  | escape _ | unit _ => true

/-- The character that a letter behind a backslash stands for. -/
def simpleEscape? (c : Char) : Option Char :=
  match c with
  | '"' => some '"'
  | '\\' => some '\\'
  | '/' => some '/'
  | 'b' => some '\x08'
  | 'f' => some '\x0c'
  | 'n' => some '\n'
  | 'r' => some '\r'
  | 't' => some '\t'
  | _ => none

/-- The pieces of a string up to its closing quote, and the text behind that. -/
def readPieces : List (Option Char) → Option (List Piece × List (Option Char))
  | [] => none
  | some '"' :: rest => some ([], rest)
  | some '\\' :: some 'u' :: some a :: some b :: some c :: some d :: rest => do
    let n ← hexQuad? a b c d
    let (pieces, rest) ← readPieces rest
    return (.unit n :: pieces, rest)
  | some '\\' :: letter? :: rest => do
    let c ← simpleEscape? (← letter?)
    let (pieces, rest) ← readPieces rest
    return (.escape c :: pieces, rest)
  | some c :: rest => do
    if c.toNat < 0x20 then none
    else
      let (pieces, rest) ← readPieces rest
      return (.char c :: pieces, rest)
  | none :: rest => do
    let (pieces, rest) ← readPieces rest
    return (.broken :: pieces, rest)

/-- The characters that pieces stand for; a half of a surrogate pair stands for none, nor does a
byte that belongs to none. -/
def joinPieces : List Piece → Option (List Char)
  | [] => some []
  | .broken :: _ => none
  | .char c :: rest | .escape c :: rest => (joinPieces rest).map (c :: ·)
  | .unit high :: .unit low :: rest =>
    if 0xd800 ≤ high ∧ high < 0xdc00 then
      if 0xdc00 ≤ low ∧ low < 0xe000 then
        (joinPieces rest).map (Char.ofNat (0x10000 + (high - 0xd800) * 0x400 + (low - 0xdc00)) :: ·)
      else none
    else if 0xdc00 ≤ high ∧ high < 0xe000 then none
    else (joinPieces (.unit low :: rest)).map (Char.ofNat high :: ·)
  | .unit n :: rest =>
    if 0xd800 ≤ n ∧ n < 0xe000 then none
    else (joinPieces rest).map (Char.ofNat n :: ·)

/-- A string behind its opening quote, and the text behind its closing one. -/
def readString (cs : List (Option Char)) : Option (Option String × List (Option Char)) :=
  (readPieces cs).map fun (pieces, rest) => ((joinPieces pieces).map String.ofList, rest)

/-- A key behind its opening quote, and the text behind its closing one. -/
def readKey (cs : List (Option Char)) : Option (JsonKey × List (Option Char)) :=
  (readPieces cs).map fun (pieces, rest) =>
    (⟨(joinPieces pieces).map String.ofList, pieces.any Piece.isEscape⟩, rest)

/-- At least one digit, and the text behind the digits. -/
def readDigits (cs : List Char) : Option (List Char × List Char) :=
  match cs.takeWhile Char.isDigit with
  | [] => none
  | digits => some (digits, cs.dropWhile Char.isDigit)

/-- The digits before the point: a zero, or digits that begin with another. -/
def readWhole : List Char → Option (List Char × List Char)
  | '0' :: rest => some (['0'], rest)
  | cs => readDigits cs

/-- The digits behind a point, if there is one. -/
def readFraction : List Char → Option (List Char × List Char)
  | '.' :: rest => readDigits rest
  | cs => some ([], cs)

/-- Sign and digits of an exponent, if there is one. -/
def readExponent : List Char → Option (Option (Bool × List Char) × List Char)
  | mark :: rest =>
    if mark = 'e' ∨ mark = 'E' then
      match rest with
      | '-' :: rest => (readDigits rest).map fun (digits, rest) => (some (true, digits), rest)
      | '+' :: rest => (readDigits rest).map fun (digits, rest) => (some (false, digits), rest)
      | rest => (readDigits rest).map fun (digits, rest) => (some (false, digits), rest)
    else some (none, mark :: rest)
  | [] => some (none, [])

/-- A number, and the text behind it. A zero is followed by no other digit. -/
def readNumeral (cs : List Char) : Option (Numeral × List Char) := do
  let (negative, cs) := match cs with
    | '-' :: rest => (true, rest)
    | cs => (false, cs)
  let (whole, cs) ← readWhole cs
  let (fraction, cs) ← readFraction cs
  let (exponent?, cs) ← readExponent cs
  return (⟨negative, whole, fraction, exponent?⟩, cs)

end Json

/-- The number that a whole text is. -/
def Numeral.ofChars? (cs : List Char) : Option Numeral :=
  match Json.readNumeral cs with
  | some (numeral, []) => some numeral
  | _ => none

namespace Json

/-- The characters that a number or a word is made of. -/
def isWordChar (c : Char) : Bool := c.isAlphanum || c == '+' || c == '-' || c == '.'

/-- A word or a number at the beginning of a text: the characters up to the first that neither is
made of, and the text behind them. -/
def splitWord : List (Option Char) → List Char × List (Option Char)
  | some c :: rest =>
    if isWordChar c then
      let (word, rest) := splitWord rest
      (c :: word, rest)
    else ([], some c :: rest)
  | cs => ([], cs)

/-- The value that a word is. -/
def ofWord? (word : List Char) : Option Json :=
  if word = ['n', 'u', 'l', 'l'] then some null
  else if word = ['t', 'r', 'u', 'e'] then some (bool true)
  else if word = ['f', 'a', 'l', 's', 'e'] then some (bool false)
  else (Numeral.ofChars? word).map number

mutual
/-- A value behind blanks, and the text behind it. The fuel bounds the number of tokens. -/
def readValue : Nat → List (Option Char) → Option (Json × List (Option Char))
  | 0, _ => none
  | fuel + 1, cs =>
    match skipSpace cs with
    | some '"' :: rest => (readString rest).map fun (text?, rest) => (string text?, rest)
    | some '[' :: rest =>
      match skipSpace rest with
      | some ']' :: rest => some (array [], rest)
      | rest => (readElements fuel rest).map fun (elements, rest) => (array elements, rest)
    | some '\x7b' :: rest =>
      match skipSpace rest with
      | some '\x7d' :: rest => some (object [], rest)
      | rest => (readMembers fuel rest).map fun (members, rest) => (object members, rest)
    | cs =>
      let (word, rest) := splitWord cs
      (ofWord? word).map fun json => (json, rest)

/-- The elements of an array up to its closing bracket, at least one. -/
def readElements : Nat → List (Option Char) → Option (List Json × List (Option Char))
  | 0, _ => none
  | fuel + 1, cs =>
    match readValue fuel cs with
    | none => none
    | some (element, rest) =>
      match skipSpace rest with
      | some ']' :: rest => some ([element], rest)
      | some ',' :: rest =>
        (readElements fuel rest).map fun (elements, rest) => (element :: elements, rest)
      | _ => none

/-- The members of an object up to its closing brace, at least one. -/
def readMembers : Nat → List (Option Char) →
    Option (List (JsonKey × Json) × List (Option Char))
  | 0, _ => none
  | fuel + 1, cs =>
    match skipSpace cs with
    | some '"' :: rest =>
      match readKey rest with
      | none => none
      | some (key, rest) =>
        match skipSpace rest with
        | some ':' :: rest =>
          match readValue fuel rest with
          | none => none
          | some (value, rest) =>
            match skipSpace rest with
            | some '\x7d' :: rest => some ([(key, value)], rest)
            | some ',' :: rest =>
              (readMembers fuel rest).map fun (members, rest) => ((key, value) :: members, rest)
            | _ => none
        | _ => none
    | _ => none
end

/-- The value of a whole text; nothing but blanks may follow it. -/
def ofScan? (cs : List (Option Char)) : Option Json :=
  match readValue (2 * cs.length + 2) cs with
  | some (json, rest) => if (skipSpace rest).isEmpty then some json else none
  | none => none

/-- The value of a whole text. -/
def ofText? (s : String) : Option Json := ofScan? (s.toList.map some)

end Json

end EntityTables
