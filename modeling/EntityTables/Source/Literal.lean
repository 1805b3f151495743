/-
# EntityTables.Source.Literal — literals of declarations

Strings, byte strings and C strings, with escapes or raw; bytes and characters; numbers. A quoted
string may break its line behind a backslash. A literal may end with a suffix of identifier
characters.

* `literalEnd?` — the text behind a literal that must come first.
* `stringValue?` — the text that a string literal stands for.
* `fieldNumbers?` — the fields that a number stands for behind a point.
-/
import EntityTables.Json.Reader
import EntityTables.Source.IdentifierChars

namespace EntityTables.Source

set_option autoImplicit false

/-- What a quoted literal holds. -/
inductive Quoting where
  | text
  | bytes
  /-- Text without a zero character. -/
  | cText
  deriving DecidableEq, Inhabited

/-- The text behind an identifier's characters. -/
def afterIdent (cs : List Char) : List Char := cs.dropWhile isIdentPart

/-- The text behind a literal's suffix, if it has one. -/
def afterSuffix : List Char → List Char
  | [] => []
  | c :: rest => if isIdentStart c then afterIdent rest else c :: rest

/-- The text behind a word that must come first. -/
def dropWord? : List Char → List Char → Option (List Char)
  | [], cs => some cs
  | w :: word, c :: cs => if w = c then dropWord? word cs else none
  | _ :: _, [] => none

/-- A character by its number. -/
def charOfNumber? (n : Nat) : Option Char :=
  if n < 0xd800 ∨ (0xe000 ≤ n ∧ n < 0x110000) then some (Char.ofNat n) else none

/-- The number in braces of an escape: one to six hexadecimal digits, underscores between them. -/
def readBraced (count value : Nat) : List Char → Option (Nat × List Char)
  | [] => none
  | c :: rest =>
    match Json.hexValue? c with
    | some digit =>
      if count = 6 then none else readBraced (count + 1) (value * 16 + digit) rest
    | none =>
      if count = 0 then none
      else if c = '_' then readBraced count value rest
      else if c = '\x7d' then some (value, rest)
      else none

/-- The character of an escape, behind its backslash. -/
def readEscape (quoting : Quoting) : List Char → Option (Char × List Char)
  | 'n' :: rest => some ('\n', rest)
  | 'r' :: rest => some ('\r', rest)
  | 't' :: rest => some ('\t', rest)
  | '\\' :: rest => some ('\\', rest)
  | '\'' :: rest => some ('\'', rest)
  | '"' :: rest => some ('"', rest)
  | '0' :: rest => if quoting = .cText then none else some ('\x00', rest)
  | 'x' :: a :: b :: rest => do
    let a ← Json.hexValue? a
    let b ← Json.hexValue? b
    let n := a * 16 + b
    if (quoting = .text ∧ 0x80 ≤ n) ∨ (quoting = .cText ∧ n = 0) then none
    else some (Char.ofNat n, rest)
  | 'u' :: '\x7b' :: rest => do
    if quoting = .bytes then none
    else
      let (n, rest) ← readBraced 0 0 rest
      if quoting = .cText ∧ n = 0 then none
      else return (← charOfNumber? n, rest)
  | _ => none

/-- The text behind the blanks that follow a broken line. A carriage return must be followed by a
line feed, and something must follow the blanks. -/
def afterBreak : List Char → Option (List Char)
  | [] => none
  | '\r' :: '\n' :: rest => afterBreak rest
  | '\r' :: _ => none
  | c :: rest => if c = ' ' ∨ c = '\t' ∨ c = '\n' then afterBreak rest else some (c :: rest)

/-- The value of a quoted string behind its opening quote, and the text behind the closing one. -/
def readQuoted (quoting : Quoting) : Nat → List Char → Option (List Char × List Char)
  | 0, _ => none
  | fuel + 1, cs =>
    match cs with
    | [] => none
    | '"' :: rest => some ([], rest)
    | '\r' :: '\n' :: rest =>
      (readQuoted quoting fuel rest).map fun (value, rest) => ('\n' :: value, rest)
    | '\r' :: _ => none
    | '\\' :: '\n' :: rest => do readQuoted quoting fuel (← afterBreak rest)
    | '\\' :: '\r' :: '\n' :: rest => do readQuoted quoting fuel (← afterBreak rest)
    | '\\' :: rest => do
      let (c, rest) ← readEscape quoting rest
      let (value, rest) ← readQuoted quoting fuel rest
      return (c :: value, rest)
    | c :: rest => do
      if quoting = .bytes ∧ 0x80 ≤ c.toNat then none
      else if quoting = .cText ∧ c = '\x00' then none
      else
        let (value, rest) ← readQuoted quoting fuel rest
        return (c :: value, rest)

/-- The value of a raw string whose closing quote is followed by a number of hashes. -/
def readRaw (quoting : Quoting) (hashes : Nat) : List Char → Option (List Char × List Char)
  | [] => none
  | '"' :: rest =>
    match dropWord? (List.replicate hashes '#') rest with
    | some rest => some ([], rest)
    | none => (readRaw quoting hashes rest).map fun (value, rest) => ('"' :: value, rest)
  | '\r' :: '\n' :: rest =>
    (readRaw quoting hashes rest).map fun (value, rest) => ('\r' :: '\n' :: value, rest)
  | '\r' :: _ => none
  | c :: rest =>
    if (quoting = .bytes ∧ 0x80 ≤ c.toNat) ∨ (quoting = .cText ∧ c = '\x00') then none
    else (readRaw quoting hashes rest).map fun (value, rest) => (c :: value, rest)

/-- A string behind its mark, quoted or raw. -/
def readString (quoting : Quoting) : List Char → Option (List Char × List Char)
  | '"' :: rest => readQuoted quoting (rest.length + 1) rest
  | 'r' :: rest =>
    let hashes := (rest.takeWhile (· == '#')).length
    match rest.drop hashes with
    | '"' :: rest => if hashes ≤ 255 then readRaw quoting hashes rest else none
    | _ => none
  | _ => none

/-- A character behind its opening quote, and the text behind the closing one. A byte is ASCII. -/
def readChar (quoting : Quoting) (cs : List Char) : Option (Char × List Char) := do
  let (c, rest) ← match cs with
    | '\\' :: rest => readEscape quoting rest
    | c :: rest => if quoting = .bytes ∧ 0x80 ≤ c.toNat then none else some (c, rest)
    | [] => none
  return (c, ← dropWord? ['\''] rest)

/-- The text behind a number's whole part with its base; underscores may stand between digits. -/
def afterDigits (base : Nat) : Bool → List Char → Option (List Char)
  | seen, [] => if seen then some [] else none
  | seen, c :: rest =>
    if c.isDigit then
      if base ≤ c.toNat - '0'.toNat then none else afterDigits base true rest
    else if c = '_' then
      if !seen && base = 10 then none else afterDigits base seen rest
    else
      match Json.hexValue? c with
      | some digit =>
        if digit < base then afterDigits base true rest
        else if seen then some (c :: rest) else none
      | none => if seen then some (c :: rest) else none

/-- The text behind a number that an identifier's character must not follow. -/
def wordEnd? (cs : List Char) : Option (List Char) :=
  match afterSuffix cs with
  | [] => some []
  | c :: rest => if isIdentPart c then none else some (c :: rest)

/-- The text behind an integer. -/
def integerEnd? (cs : List Char) : Option (List Char) := do
  let rest ← match cs with
    | '0' :: 'x' :: rest => afterDigits 16 false rest
    | '0' :: 'o' :: rest => afterDigits 8 false rest
    | '0' :: 'b' :: rest => afterDigits 2 false rest
    | cs => afterDigits 10 false cs
  wordEnd? rest

/-- Digits and underscores. -/
def isDigitOrScore (c : Char) : Bool := c.isDigit || c == '_'

/-- The text behind an exponent's sign and digits. -/
def afterExponent? (cs : List Char) : Option (List Char) :=
  let scored := cs.dropWhile (· == '_')
  let signless := match scored with
    | '+' :: rest | '-' :: rest => rest
    | _ => scored
  if (signless.takeWhile isDigitOrScore).any Char.isDigit then
    some (signless.dropWhile isDigitOrScore)
  else none

/-- The text behind a number with a point or an exponent. A point must not be followed by another or
by an identifier; an exponent without digits is a suffix. -/
def floatEnd? (cs : List Char) : Option (List Char) := do
  match cs with
  | c :: _ => if c.isDigit then some () else none
  | [] => none
  let rest := cs.dropWhile isDigitOrScore
  let (dotted, rest) ← match rest with
    | '.' :: rest =>
      match rest with
      | c :: _ =>
        if c = '.' ∨ isIdentStart c then none
        else some (true, rest.dropWhile isDigitOrScore)
      | [] => some (true, [])
    | rest => some (false, rest)
  match rest with
  | c :: more =>
    if c = 'e' ∨ c = 'E' then
      match afterExponent? more with
      | some rest => wordEnd? rest
      | none => if dotted then wordEnd? (c :: more) else none
    else if dotted then wordEnd? rest else none
  | [] => if dotted then some [] else none

/-- What a text in which reading went wrong leaves in place of a literal. -/
def faultMark : List Char := "(/*ERROR*/)".toList

/-- The text behind a literal. -/
def literalEnd? (cs : List Char) : Option (List Char) :=
  let quoted := match cs with
    | 'b' :: '\'' :: rest => (readChar .bytes rest).map Prod.snd
    | 'b' :: rest => (readString .bytes rest).map Prod.snd
    | 'c' :: rest => (readString .cText rest).map Prod.snd
    | '\'' :: rest => (readChar .text rest).map Prod.snd
    | cs => (readString .text cs).map Prod.snd
  match quoted with
  | some rest => some (afterSuffix rest)
  | none =>
    match floatEnd? cs with
    | some rest => some rest
    | none =>
      match integerEnd? cs with
      | some rest => some rest
      | none => dropWord? faultMark cs

/-- The text that a string literal stands for; other literals stand for none. -/
def stringValue? (literal : String) : Option String :=
  (readString .text literal.toList).map fun (value, _) => String.ofList value

/-! ## Numbers of fields -/

/-- Whether a text goes on as the exponent of a number without a point: digits behind a sign or not,
and nothing behind them but what an identifier may hold. -/
def isExponent : Bool → List Char → Bool
  | seen, [] => seen
  | seen, c :: rest =>
    if c = '_' then isExponent seen rest
    else if c = '-' ∨ c = '+' then true
    else if c.isDigit then isExponent true rest
    else seen && isIdentStart c && rest.all isIdentPart

/-- The value of digits in a base, whether there are any, and the text behind them; none if the text
is no integer. -/
def readInteger (base : Nat) (value : Nat) (seen : Bool) : List Char → Option (Nat × List Char)
  | [] => if seen then some (value, []) else none
  | c :: rest =>
    let digit? := match Json.hexValue? c with
      | some digit => if c.isDigit ∨ 10 < base then some digit else none
      | none => none
    match digit? with
    | some digit => if digit < base then readInteger base (value * base + digit) true rest else none
    | none =>
      if c = '_' then readInteger base value seen rest
      else if base = 10 ∧ (c = '.' ∨ ((c = 'e' ∨ c = 'E') ∧ isExponent false rest)) then none
      else if seen then some (value, c :: rest) else none

/-- The value of an integer literal and its suffix. -/
def integerParts? (literal : List Char) : Option (Nat × List Char) := do
  let (value, suffix) ← match literal with
    | '0' :: 'x' :: rest => readInteger 16 0 false rest
    | '0' :: 'o' :: rest => readInteger 8 0 false rest
    | '0' :: 'b' :: rest => readInteger 2 0 false rest
    | c :: rest => if c.isDigit then readInteger 10 0 false (c :: rest) else none
    | [] => none
  match suffix with
  | [] => some (value, [])
  | c :: rest => if isIdentStart c ∧ rest.all isIdentPart then some (value, suffix) else none

/-- The field that an integer literal without a suffix stands for; it has at most 32 bits. -/
def fieldNumber? (literal : List Char) : Option Nat :=
  match integerParts? literal with
  | some (number, []) => if number ≤ 0xffffffff then some number else none
  | _ => none

/-- Whether a literal is a number that is no integer. -/
def isFloat (literal : List Char) : Bool :=
  match literal with
  | c :: _ =>
    c.isDigit && (["f32", "f64"].any (fun suffix => suffix.toList.isSuffixOf literal) ||
      (integerParts? literal).isNone)
  | [] => false

/-- The fields that a number stands for behind a point: those on both sides of its own point. A
number that ends with its point has a field's name behind it, which the second component says. -/
def fieldNumbers? (literal : List Char) : Option (List Nat × Bool) := do
  if isFloat literal then
    let parts := literal.splitOn '.'
    let open' := parts.getLast?.any List.isEmpty
    let numbers ← (if open' then parts.dropLast else parts).mapM fieldNumber?
    return (numbers, open')
  else return ([← fieldNumber? literal], false)

end EntityTables.Source
