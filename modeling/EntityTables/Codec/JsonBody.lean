/-
# EntityTables.Codec.JsonBody — objects with a JSON body

Sequences and sets are arrays, maps are objects, and a missing value is null. A number that is not
finite is written as null, which cannot be read back as a number. Reading takes integers only in
range and written without point or exponent; sets drop what they hold already, and of two entries
with one key a map keeps the later.

* `JsonForm.toJson`, `JsonForm.ofJson?` — the JSON of a value, and back.
* `JsonForm.codec` — version 1 of every such type; `structureCodec` — of structures with such
  fields.
-/
import EntityTables.Codec.Basic
import EntityTables.Codec.JsonType
import EntityTables.Json.Reader
import EntityTables.Json.Structure
import EntityTables.Json.Writer

namespace EntityTables

set_option autoImplicit false

variable {ι : Type} [IntegerTypes ι]

/-- A key as text: an integer by its digits. -/
def KeyForm.toText : (type : KeyForm ι) → type.Carrier → String
  | .text, key => key
  | .integer _, key => toString key.1

/-- The value of an integer type that a number is. -/
def IntegerTypes.ofNumeral? (type : ι) (numeral : Numeral) : Option (Range type) :=
  match numeral.toInt? with
  | some i => if holds : Holds type i then some ⟨i, holds⟩ else none
  | none =>
    if readsSignedZero type ∧ numeral = ⟨true, ['0'], [], none⟩ then some ⟨0, holds_zero type⟩
    else none

/-- Reads a key. The digits of an integer stand there as they are, without escapes. -/
def KeyForm.ofKey? : (type : KeyForm ι) → JsonKey → Option type.Carrier
  | .text, key => key.text?
  | .integer type, key => do
    if key.escaped then none
    else IntegerTypes.ofNumeral? type (← Numeral.ofChars? (← key.text?).toList)

namespace JsonForm

/-- A value as JSON. -/
def toJson : (type : JsonForm ι) → type.Carrier → Json
  | .text, s => .text s
  | .boolean, b => .bool b
  | .integer _, i => .int i.1
  | .double, x =>
    match x.toNumeral? with
    | some numeral => .number numeral
    | none => .null
  | .option _, none => .null
  | .option element, some a => element.toJson a
  | .vector element, as | .deque element, as | .treeSet element, as | .hashSet element, as =>
    .array (as.map element.toJson)
  | .treeMap key value, entries | .hashMap key value, entries =>
    .record (entries.map fun entry => (key.toText entry.1, value.toJson entry.2))

/-- The entries of an object, keys and values read each by its own reader. -/
def entriesOfJson? {α β : Type} (key : JsonKey → Option α) (value : Json → Option β)
    (json : Json) : Option (List (α × β)) := do
  (← json.members?).mapM fun member => do
    return (← key member.1, ← value member.2)

/-- Reads a value. -/
def ofJson? : (type : JsonForm ι) → Json → Option type.Carrier
  | .text, json => json.text?
  | .boolean, json => json.bool?
  | .integer type, .number numeral => IntegerTypes.ofNumeral? type numeral
  | .integer _, _ => none
  | .double, .number numeral => Double.ofNumeral? numeral
  | .double, _ => none
  | .option _, .null => some none
  | .option element, json => (element.ofJson? json).map some
  | .vector element, json | .deque element, json => do (← json.array?).mapM element.ofJson?
  | .treeSet element, json => do
    return treeSetOf element.order (← (← json.array?).mapM element.ofJson?)
  | .hashSet element, json => do
    return hashSetOf element.order (← (← json.array?).mapM element.ofJson?)
  | .treeMap key value, json => do
    return treeMapOf key.order (← entriesOfJson? key.ofKey? value.ofJson? json)
  | .hashMap key value, json => do
    return hashMapOf key.order (← entriesOfJson? key.ofKey? value.ofJson? json)

end JsonForm

/-- A codec whose bodies are JSON text in UTF-8, of version 1 and read alike in older ones. Broken
UTF-8 is a fault where it is read, though not inside what a structure does not ask for. -/
def jsonCodec {α : Type} (typeName : String) (toJson : α → Json) (ofJson? : Json → Option α) :
    Codec α where
  typeName := typeName
  version := 1
  encodeBody a := .ok (Utf8.encode (toJson a).chars)
  decodeBody _ body :=
    match (Json.ofScan? (Utf8.scan body)).bind ofJson? with
    | some a => .ok a
    | none => .error .badJson

/-- The codec of a type with a JSON form. -/
def JsonForm.codec (type : JsonForm ι) : Codec type.Carrier :=
  jsonCodec type.typeName type.toJson type.ofJson?

/-- The values of a structure's fields. -/
@[reducible] def FieldValues : List (String × JsonForm ι) → Type
  | [] => Unit
  | (_, type) :: rest => type.Carrier × FieldValues rest

namespace FieldValues

/-- A structure's fields as members of an object. -/
def members : (fields : List (String × JsonForm ι)) → FieldValues fields → List (String × Json)
  | [], () => []
  | (name, type) :: rest, (value, values) => (name, type.toJson value) :: members rest values

/-- Reads a structure's fields, all of which must be given. -/
def ofGiven? : (fields : List (String × JsonForm ι)) → List (Option Json) →
    Option (FieldValues fields)
  | [], [] => some ()
  | (_, type) :: rest, given :: others => do
    return (← Json.required type.ofJson? given, ← ofGiven? rest others)
  | _, _ => none

end FieldValues

/-- The codec of a structure whose fields have JSON forms. -/
def structureCodec (typeName : String) (fields : List (String × JsonForm ι)) :
    Codec (FieldValues fields) :=
  jsonCodec typeName (fun values => .record (FieldValues.members fields values)) fun json => do
    FieldValues.ofGiven? fields (← json.fields? (fields.map Prod.fst))

end EntityTables
