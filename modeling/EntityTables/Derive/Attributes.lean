/-
# EntityTables.Derive.Attributes — what the attributes of a declaration ask for

Only attributes named `rowforge` count. Each holds a list of entries, which are taken in order: an
entry that is not well formed ends the reading, and so does one that is not known.

* `fieldAttributes`, `parentAttribute` — what the attributes of a field and of a struct ask for.
-/
import EntityTables.Derive.Refusal
import EntityTables.Source.Item
import EntityTables.Source.Nesting

namespace EntityTables.Derive

set_option autoImplicit false

open EntityTables.Source

/-- An entry's name, unless a longer path names it, and where it begins. -/
abbrev EntryName := Option String × Position

/-- An entry's path; keywords may stand in it. -/
def readEntryName : Reading EntryName := do
  let absolute ← Reading.optionalPunct [':', ':']
  let position := startOf (← Reading.upcoming)
  let first ← Reading.anyWord
  let single ← Reading.ahead (!startsPunct [':', ':'] ·)
  Reading.many do
    if ← Reading.optionalPunct [':', ':'] then
      let _ ← Reading.anyWord
      return true
    else return false
  return (if absolute || !single then none else some first, position)

/-- What an entry does: it changes what was found so far, and may take tokens of its own. -/
abbrev Entry (σ : Type) := σ → EntryName → List Tree → Except Fault (σ × List Tree)

/-- Takes the entries of one attribute in order. -/
def readEntries {σ : Type} (entry : Entry σ) : Nat → σ → List Tree → Except Fault σ
  | 0, _, _ => .error .malformed
  | fuel + 1, found, trees =>
    match Reading.on? readEntryName trees with
    | none => .error .malformed
    | some (name, rest) =>
      match entry found name rest with
      | .error fault => .error fault
      | .ok (found, []) => .ok found
      | .ok (found, rest) =>
        match punct? [','] rest with
        | none => .error .malformed
        | some [] => .ok found
        | some rest => readEntries entry fuel found rest

/-- Takes the entries of all attributes in order. -/
def foldAttributes {σ : Type} (entry : Entry σ) : σ → List Attribute → Except Fault σ
  | found, [] => .ok found
  | found, first :: rest =>
    if first.name? = some "rowforge" then
      match first.input with
      | .list [] => foldAttributes entry found rest
      | .list trees =>
        match readEntries entry (trees.length + 1) found trees with
        | .error fault => .error fault
        | .ok found => foldAttributes entry found rest
      | _ => .error .malformed
    else foldAttributes entry found rest

/-- What the attributes of a field ask for. -/
structure FieldAttributes where
  identity : Bool
  /-- The column's name, where it is not the field's. -/
  column? : Option String
  oneToOne : Bool
  oneToMany : Bool
  deriving DecidableEq, Inhabited

/-- A field without attributes. -/
def FieldAttributes.plain : FieldAttributes := ⟨false, none, false, false⟩

/-- Whether the attributes ask for anything that an identity cannot have. -/
def FieldAttributes.unfitForIdentity (attributes : FieldAttributes) : Bool :=
  attributes.column?.isSome || attributes.oneToOne || attributes.oneToMany

/-- The string behind an equals sign. -/
def readStringValue : Reading String := do
  Reading.punct ['=']
  stringValue? (← Reading.any).text

/-- The path behind an equals sign, without a space anywhere. -/
def readPathValue : Reading String := do
  Reading.punct ['=']
  readPathText

/-- An entry of a field's attributes. -/
def fieldEntry : Entry FieldAttributes := fun found (name?, position) rest =>
  match name? with
  | some "id" => .ok ({ found with identity := true }, rest)
  | some "column" =>
    match Reading.on? readStringValue rest with
    | some (column, rest) => .ok ({ found with column? := some column }, rest)
    | none => .error .malformed
  | some "one_to_one" => .ok ({ found with oneToOne := true }, rest)
  | some "one_to_many" => .ok ({ found with oneToMany := true }, rest)
  | _ => .error (.refused .unknownFieldAttribute position)

/-- What the attributes of a field ask for. -/
def fieldAttributes (attributes : List Attribute) : Except Fault FieldAttributes :=
  foldAttributes fieldEntry .plain attributes

/-- An entry of a struct's attributes. -/
def structEntry : Entry (Option String) := fun _ (name?, position) rest =>
  match name? with
  | some "child_of" =>
    match Reading.on? readPathValue rest with
    | some (parent, rest) => .ok (some parent, rest)
    | none => .error .malformed
  | _ => .error (.refused .unknownStructAttribute position)

/-- The parent that the attributes of a struct name; the last one counts. -/
def parentAttribute (attributes : List Attribute) : Except Fault (Option String) :=
  foldAttributes structEntry none attributes

end EntityTables.Derive
