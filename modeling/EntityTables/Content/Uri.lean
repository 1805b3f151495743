/-
# EntityTables.Content.Uri — identifiers of tables and rows

An identifier is `content://`, an authority, a slash and a table, for the whole table; a slash and
an identity may follow, for one row, and then one more slash. The identity is a decimal number, with
a sign or not, from zero up to the largest of 64 bits.

* `ContentUri.text` — the identifier as text, without a slash at its end.
* `ContentUri.ofText?` — the identifier of a text, if it is one; `ContentUri.parse` — or a refusal
  that names the text.
-/
import EntityTables.Error
import EntityTables.Text.Blank

namespace EntityTables

set_option autoImplicit false

/-- Which rows of a table an identifier is about. -/
inductive RowSelector where
  | all
  | row (identity : Int64)
  deriving DecidableEq, Inhabited

/-- The identifier of a table or of one of its rows. -/
structure ContentUri where
  authority : String
  table : String
  selector : RowSelector
  deriving DecidableEq, Inhabited

namespace ContentUri

/-- The scheme with what divides it from the rest. -/
def scheme : List Char := ['c', 'o', 'n', 't', 'e', 'n', 't', ':', '/', '/']

/-- The identifier of a table. -/
def collection (authority table : String) : ContentUri := ⟨authority, table, .all⟩

/-- The identifier of a row. -/
def row (authority table : String) (identity : Int64) : ContentUri :=
  ⟨authority, table, .row identity⟩

/-- The end of an identifier, behind its table. -/
def selectorText : RowSelector → String
  | .all => ""
  | .row identity => "/" ++ toString identity.toInt

/-- The identifier as text. -/
def text (uri : ContentUri) : String :=
  String.ofList scheme ++ uri.authority ++ "/" ++ uri.table ++ selectorText uri.selector

/-- The characters of an authority, and of an identity before it is looked at. -/
def isPartChar (c : Char) : Bool := c != '/' && !Text.isBlank c

/-- The characters of a table's name. -/
def isTableChar (c : Char) : Bool := c.isAlphanum || c == '_'

/-- Whether a table's name is one: not empty, and not beginning with a digit. -/
def isTableName : List Char → Bool
  | [] => false
  | c :: rest => !c.isDigit && (c :: rest).all isTableChar

/-- The number of decimal digits, of which there must be one at least. -/
def decimal? : List Char → Option Nat
  | [] => none
  | digits =>
    if digits.all Char.isDigit then
      some (digits.foldl (fun n c => n * 10 + (c.toNat - '0'.toNat)) 0)
    else none

/-- An integer with a sign or without. -/
def integer? : List Char → Option Int
  | '-' :: digits => (decimal? digits).map fun n => -(n : Int)
  | '+' :: digits => (decimal? digits).map Int.ofNat
  | digits => (decimal? digits).map Int.ofNat

/-- The identity of a text: an integer from zero up to the largest of 64 bits. -/
def identity? (cs : List Char) : Option Int64 :=
  match integer? cs with
  | some i => if 0 ≤ i ∧ i ≤ 9223372036854775807 then some (Int64.ofInt i) else none
  | none => none

/-- The text behind another that must come first. -/
def dropPart? : List Char → List Char → Option (List Char)
  | [], cs => some cs
  | p :: part, c :: cs => if p = c then dropPart? part cs else none
  | _ :: _, [] => none

/-- The end of an identifier behind its table: nothing or a slash, or a slash, an identity and again
nothing or a slash. -/
def selector? : List Char → Option RowSelector
  | [] | ['/'] => some .all
  | '/' :: rest =>
    let identity := rest.takeWhile isPartChar
    let after := rest.dropWhile isPartChar
    if after = [] ∨ after = ['/'] then (identity? identity).map RowSelector.row else none
  | _ => none

/-- The identifier of characters, if they are one. -/
def ofChars? (cs : List Char) : Option ContentUri := do
  let rest ← dropPart? scheme cs
  let authority := rest.takeWhile isPartChar
  if authority.isEmpty then none
  else
    let rest ← dropPart? ['/'] (rest.dropWhile isPartChar)
    let table := rest.takeWhile isTableChar
    if isTableName table then
      let selector ← selector? (rest.dropWhile isTableChar)
      return ⟨String.ofList authority, String.ofList table, selector⟩
    else none

/-- The identifier of a text, if it is one. -/
def ofText? (text : String) : Option ContentUri := ofChars? text.toList

/-- The identifier of a text; any other text is refused as it is. -/
def parse (text : String) : Except Error ContentUri :=
  match ofText? text with
  | some uri => .ok uri
  | none => .error (.unknownUri text)

end ContentUri

end EntityTables
