/-
# EntityTables.Settings.KeyPath — keys that lead into settings

A key can be a path: a name, and behind it names behind points and numbers in brackets. Such a key
gives a value not to a setting but to a part of it, and a setting with parts is no text.

* `leadsInto` — whether a key is a path that leads into a setting.
-/
import EntityTables.Schema.IntType

namespace EntityTables.Settings

set_option autoImplicit false

/-- The characters of names in paths. -/
def isNameChar (c : Char) : Bool := c.isAlphanum || c == '_' || c == '-'

/-- A text without the blanks in front. -/
def skipBlanks (cs : List Char) : List Char := cs.dropWhile fun c => c == ' ' || c == '\t'

/-- What follows a number and its closing bracket; the number has to fit into 64 bits. -/
def behindNumber? (cs : List Char) : Option (List Char) :=
  let cs := skipBlanks cs
  let negative := cs.head? = some '-'
  let cs := if negative then cs.drop 1 else cs
  let digits := cs.takeWhile Char.isDigit
  let n : Int := digits.foldl (fun n d => n * 10 + (d.toNat - '0'.toNat)) 0
  if digits ≠ [] ∧ IntType.int64.Holds (if negative then -n else n) then
    match skipBlanks (cs.drop digits.length) with
    | ']' :: rest => some rest
    | _ => none
  else none

/-- Whether a text is a sequence of steps into parts, at most so many. -/
def areSteps : Nat → List Char → Bool
  | _, [] => true
  | 0, _ => false
  | steps + 1, '.' :: rest =>
    (rest.head?.any isNameChar) && areSteps steps (rest.dropWhile isNameChar)
  | steps + 1, '[' :: rest => (behindNumber? rest).any (areSteps steps)
  | _, _ => false

/-- Whether a key is a path that leads into a setting. -/
def leadsInto (setting key : String) : Bool :=
  let rest := key.toList.drop setting.length
  setting.toList.isPrefixOf key.toList && rest != [] && areSteps rest.length rest

end EntityTables.Settings
