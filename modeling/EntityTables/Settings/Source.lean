/-
# EntityTables.Settings.Source — what settings are taken from

A settings file and the environment both give values to keys. A number or a truth value stands for
its text; what has parts, and what is null, stands for none.

* `Source.ofTable`, `Source.ofJson?`, `Source.ofEnvironment` — keys with what they are given.
* `Source.find?` — what a source gives to a setting.
-/
import EntityTables.Decimal.Layout
import EntityTables.Json.Reader
import EntityTables.Settings.KeyPath
import EntityTables.Toml.Basic

namespace EntityTables.Settings

set_option autoImplicit false

/-- What a key is given. -/
inductive Given where
  | text (s : String)
  | other
  deriving DecidableEq, Inhabited

/-- Keys with what they are given, the later counting more. -/
abbrev Source := List (String × Given)

/-- A value of a settings file. -/
def Given.ofToml : Toml.Value → Given
  | .text s => .text s
  | .moment m => .text m.text
  | .integer i => .text (toString i)
  | .real x => .text x.display
  | .boolean b => .text (if b then "true" else "false")
  | .array _ | .table _ => .other

/-- The text of a number: of an integer of 64 bits its digits. -/
def numberText (numeral : Numeral) : String :=
  match numeral.toInt?.filter fun i => IntType.int64.Holds i with
  | some i => toString i
  | none => ((Double.ofNumeral? numeral).map Double.display).getD ""

/-- A value of a settings file in JSON. -/
def Given.ofJson : Json → Given
  | .string (some s) => .text s
  | .number numeral => .text (numberText numeral)
  | .bool b => .text (if b then "true" else "false")
  | _ => .other

/-- Whether every string in a value is a text and every number finite, and values lie in each other
no deeper than so much. -/
def isPlain : Nat → Json → Bool
  | _, .null | _, .bool _ => true
  | _, .number numeral => (Double.ofNumeral? numeral).isSome
  | _, .string text? => text?.isSome
  | depth + 1, .array elements => elements.all (isPlain depth)
  | depth + 1, .object members =>
    members.all fun member => member.1.text?.isSome && isPlain depth member.2
  | 0, .array _ | 0, .object _ => false

namespace Source

/-- The keys of a document. -/
def ofTable (table : Toml.Table) : Source :=
  table.entries.map fun (key, node) =>
    match node with
    | .value v => (key, .ofToml v)
    | .table _ _ | .row _ => (key, .other)

/-- The keys of a document in JSON. -/
def ofJson? (json : Json) : Option Source := do
  let members ← json.textMembers?
  if isPlain 127 json then some (members.map fun member => (member.1, .ofJson member.2)) else none

/-- What variables of the environment begin with to be settings. -/
def environmentStart : String := "rowforge_"

/-- A character in lower case. Beyond ASCII only one has an ASCII letter for that. -/
def lowered (c : Char) : Char := if c = '\u212a' then 'k' else c.toLower

/-- The key of a variable of the environment, if it is one; case does not matter. -/
def keyOf? (variableName : String) : Option String :=
  let name := variableName.toList.map lowered
  if environmentStart.toList.isPrefixOf name then
    some (String.ofList (name.drop environmentStart.length))
  else none

/-- The keys of an environment, in the order of its names. -/
def ofEnvironment (environment : List (String × String)) : Source :=
  (environment.mergeSort fun a b => !(b.1 < a.1)).filterMap fun (name, text) =>
    (keyOf? name).map fun key => (key, .text text)

/-- What a source gives to a setting. -/
def find? (setting : String) (source : Source) : Option Given :=
  source.reverse.findSome? fun (key, given) =>
    if key = setting then some given
    else if leadsInto setting key then some .other
    else none

end Source

end EntityTables.Settings
