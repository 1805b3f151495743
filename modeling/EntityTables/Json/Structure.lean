/-
# EntityTables.Json.Structure — structures with named fields in JSON

A structure is an object of its fields, in any order and among others, or an array of its fields in
their own order. No field may be given twice, and an array holds none beyond the last; it may end
early, and whether a field may be missing is for the reader of that field.

* `Json.fields?` — what is given for each field, in the structure's order.
* `required`, `optional`, `defaulted` — three ways to read what is given.
-/
import EntityTables.Json.Basic

namespace EntityTables.Json

set_option autoImplicit false

/-- The value given for a field; a second one is a fault. -/
def single? (members : List (String × Json)) (name : String) : Option (Option Json) :=
  match members.filter fun member => member.1 == name with
  | [] => some none
  | [member] => some (some member.2)
  | _ => none

/-- Elements laid beside the fields they stand for; none may be left over. -/
def positional? : List String → List Json → Option (List (Option Json))
  | [], [] => some []
  | [], _ :: _ => none
  | _ :: names, [] => (positional? names []).map (none :: ·)
  | _ :: names, element :: rest => (positional? names rest).map (some element :: ·)

/-- What is given for each field of a structure. -/
def fields? (names : List String) (json : Json) : Option (List (Option Json)) :=
  match json with
  | object _ => do
    let members ← json.textMembers?
    names.mapM (single? members)
  | array elements => positional? names elements
  | _ => none

/-- A field that must be given. -/
def required {α : Type} (read : Json → Option α) : Option Json → Option α
  | none => none
  | some json => read json

/-- A field that may be missing or null. -/
def optional {α : Type} (read : Json → Option α) : Option Json → Option (Option α)
  | none => some none
  | some null => some none
  | some json => (read json).map some

/-- A field that may be missing. -/
def defaulted {α : Type} (default : α) (read : Json → Option α) : Option Json → Option α
  | none => some default
  | some json => read json

/-- A variant of an enumeration: its name alone, or the only member of an object. -/
def variant? : Json → Option (String × Option Json)
  | string (some name) => some (name, none)
  | object [(key, content)] => key.text?.map fun name => (name, some content)
  | _ => none

end EntityTables.Json
