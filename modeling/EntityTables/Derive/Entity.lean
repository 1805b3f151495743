/-
# EntityTables.Derive.Entity — the entity that a declaration describes

A struct with named fields becomes an entity: one field of type `i64` is the identity, and every
other field a column. The identity is the field marked as such, or else the last one named `id`.

* `derive` — the compiled schema of a declaration, or the first reason to refuse it.
* `expand` — the adapter of a declaration's text, as tokens without blanks between them.
-/
import EntityTables.Adapter.Source
import EntityTables.Derive.Attributes
import EntityTables.Derive.Classification
import EntityTables.Source.ItemReader

namespace EntityTables.Derive

set_option autoImplicit false

open EntityTables.Source

/-- A field with what its attributes ask for. -/
structure Candidate where
  field : Field
  attributes : FieldAttributes
  deriving Inhabited

/-- Refuses at a place. -/
def refuse {α : Type} (cause : Cause) (position : Position) : Except Fault α :=
  .error (.refused cause position)

/-- Refuses a field that cannot be the identity: its column is named after it, and holds 64 bits. -/
def Candidate.checkIdentity (candidate : Candidate) : Except Fault Unit :=
  let field := candidate.field
  if candidate.attributes.unfitForIdentity then refuse .identityAttributes field.position
  else if isRaw field.name then refuse .rawIdentity field.namePosition
  else if field.type.declared = .integer .int64 then .ok ()
  else refuse .identityType field.typePosition

/-- Refuses a field for what its attributes ask for; `marked` says whether a field before it is
marked as the identity. -/
def Candidate.check (candidate : Candidate) (marked : Bool) : Except Fault Unit :=
  let attributes := candidate.attributes
  let position := candidate.field.position
  if attributes.identity then
    if marked then refuse .secondIdentity position else candidate.checkIdentity
  else if attributes.oneToOne && attributes.oneToMany then refuse .bothRelations position
  else .ok ()

/-- The fields with what their attributes ask for, each checked before the next one is looked at. -/
def candidates : Bool → List Field → Except Fault (List Candidate)
  | _, [] => .ok []
  | marked, field :: rest => do
    let candidate : Candidate := ⟨field, ← fieldAttributes field.attributes⟩
    candidate.check marked
    let others ← candidates (marked || candidate.attributes.identity) rest
    return candidate :: others

/-- The declared type of a candidate: what an attribute asks for comes before the type itself. -/
def Candidate.declared (candidate : Candidate) : DeclaredType :=
  let (type, _) := candidate.field.type.unwrapOption
  if candidate.attributes.oneToOne then .oneToOne type.text
  else if candidate.attributes.oneToMany then .oneToMany type.element.text
  else type.declared

/-- The column of a candidate. -/
def Candidate.column (candidate : Candidate) : Column :=
  let name := candidate.attributes.column?.getD (withoutRaw candidate.field.name)
  let column := (Column.ofField name candidate.declared).withField candidate.field.name
  if candidate.field.type.unwrapOption.2 then column.makeNullable else column

/-- Whether a candidate may be the identity though it is not marked as such. -/
def Candidate.isNamedId (candidate : Candidate) : Bool := candidate.field.name == "id"

/-- The list without the last of its members that pass a test. -/
def eraseLast {α : Type} (test : α → Bool) (list : List α) : List α :=
  (list.reverse.eraseP test).reverse

/-- The name of the identity and the candidates that become columns. -/
def splitIdentity (item : Item) (found : List Candidate) :
    Except Fault (String × List Candidate) :=
  match found.find? fun candidate => candidate.attributes.identity with
  | some marked =>
    .ok (marked.field.name, found.filter fun candidate => !candidate.attributes.identity)
  | none =>
    match found.reverse.find? Candidate.isNamedId with
    | some candidate => do
      candidate.checkIdentity
      return (candidate.field.name, eraseLast Candidate.isNamedId found)
    | none => refuse .noIdentity item.namePosition

/-- Where a fault of the schema lies: at the field it is about, if it is about one. -/
def faultPosition (item : Item) (mapped : List Candidate) (fault : SchemaError) : Position :=
  let field? : Option Candidate := match fault with
    | .unmappedType field _ => mapped.find? fun candidate => candidate.column.field == field
    | .duplicateColumn _ name | .identityCollision _ name =>
      mapped.reverse.find? fun candidate => candidate.column.name == name
    | _ => none
  (field?.map fun candidate => candidate.field.position).getD item.namePosition

/-- The steps that build the schema of a declaration. -/
def schemaSteps (identity : String) (mapped : List Candidate) (parent? : Option String) :
    List Schema.Step :=
  .identity identity :: mapped.map (fun candidate => .column candidate.column) ++
    (parent?.map Schema.Step.childOf).toList

/-- The fields of a declaration that is a struct with named fields and without parameters. -/
def namedFields (item : Item) : Except Fault (List Field) :=
  match item.parameters? with
  | some position => refuse .parameters position
  | none =>
    match item.shape with
    | .named fields => .ok fields
    | .numbered position => refuse .fieldsWithoutNames position
    | .unit => refuse .fieldsWithoutNames .origin
    | .choice => refuse .fieldsWithoutNames item.namePosition

/-- The compiled schema of a declaration, or the first reason to refuse it. -/
def derive (item : Item) : Except Fault Compiled := do
  let fields ← namedFields item
  let parent? ← parentAttribute item.attributes
  let found ← candidates false fields
  let (identity, mapped) ← splitIdentity item found
  let compiled := do (← Schema.build item.name (schemaSteps identity mapped parent?)).compile
  match compiled with
  | .ok compiled => return compiled
  | .error fault => refuse (.schema fault) (faultPosition item mapped fault)

/-- The adapter of the declaration in a text, as tokens without blanks between them. -/
def expand (text : String) : Except Fault String := do
  match readItem? text with
  | none => .error .malformed
  | some item =>
    match readTrees? (Adapter.render (← derive item)) with
    | some trees => return textOf trees
    | none => refuse .unreadableSource .origin

end EntityTables.Derive
