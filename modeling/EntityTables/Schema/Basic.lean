/-
# EntityTables.Schema.Basic — columns and the schema of one entity

A `Schema` names the entity's type, its identity column and its columns in declaration order; the
schema of a child entity also names the parent's type. `Schema.build` makes one from a list of
steps and adds the marker column that ties a child row to its parent.

* `tableName` — the table of a type: each path separator becomes one underscore.
* `Schema.check` — the structural rules, first fault first; a name may be written down at any time,
  but only a schema that passes is ever built.
* `checkColumns_eq_ok_iff` — the column rules hold exactly if identity and columns are pairwise
  different.
-/
import EntityTables.Schema.Error
import EntityTables.Text.Blank

namespace EntityTables

set_option autoImplicit false

/-- One column: its name, the field it maps if that is named differently, what the field declares,
the part the column plays, and whether it may be empty. -/
structure Column where
  name : String
  field? : Option String
  declaredType : DeclaredType
  kind : ColumnKind
  nullable : Bool
  deriving DecidableEq, Inhabited

namespace Column

/-- A column for a field of the same name, never empty, of the kind its type implies. -/
def ofField (name : String) (declared : DeclaredType) : Column :=
  ⟨name, none, declared, .of declared, false⟩

/-- The same column, allowed to be empty. -/
def makeNullable (column : Column) : Column := { column with nullable := true }

/-- The same column for another field; a field of the column's own name needs no mention. -/
def withField (column : Column) (field : String) : Column :=
  { column with field? := if field = column.name then none else some field }

/-- The field that the column maps. -/
def field (column : Column) : String := column.field?.getD column.name

@[simp] theorem field_withField (column : Column) (field : String) :
    (column.withField field).field = field := by
  simp only [withField, Column.field]
  split
  · next same => simp [same]
  · simp

end Column

/-- A path with `::` and then `.` replaced by underscores, from the left. -/
def joinPath : List Char → List Char
  | ':' :: ':' :: rest => '_' :: joinPath rest
  | '.' :: rest => '_' :: joinPath rest
  | c :: rest => c :: joinPath rest
  | [] => []

/-- The table of a type: each separator of its path becomes one underscore. -/
def tableName (target : String) : String := String.ofList (joinPath target.toList)

/-- The name of the column by which a child row refers to its parent. -/
def parentColumnName (parent : String) : String := tableName parent ++ "_id"

/-- The schema of one entity. -/
structure Schema where
  target : String
  identity : String
  columns : List Column
  parent? : Option String
  deriving DecidableEq, Inhabited

namespace Schema

/-- The entity's table. -/
def table (schema : Schema) : String := tableName schema.target

/-- Whether rows of the entity belong to a parent row. -/
def isChild (schema : Schema) : Bool := schema.parent?.isSome

/-- The column by which a row refers to its parent. -/
def parentReference? (schema : Schema) : Option Column :=
  schema.columns.find? fun column => column.kind == .oneToManyChildMarker

/-- The column rules, at the first column that breaks one: no column may carry the identity's name
or that of a column before it. -/
def checkColumns (target identity : String) : List String → List String → Except SchemaError Unit
  | _, [] => .ok ()
  | seen, name :: rest =>
    if name = identity then .error (.identityCollision target name)
    else if name ∈ seen then .error (.duplicateColumn target name)
    else checkColumns target identity (name :: seen) rest

/-- The structural rules: a target and an identity that are not blank, and the column rules. -/
def check (schema : Schema) : Except SchemaError Unit :=
  if Text.allBlank schema.target then .error .emptyTarget
  else if Text.allBlank schema.identity then .error (.emptyIdentity schema.target)
  else checkColumns schema.target schema.identity [] (schema.columns.map Column.name)

theorem checkColumns_eq_ok_iff {target identity : String} {seen names : List String} :
    checkColumns target identity seen names = .ok () ↔
      identity ∉ names ∧ (∀ name ∈ names, name ∉ seen) ∧ names.Nodup := by
  induction names generalizing seen with
  | nil => simp [checkColumns]
  | cons name rest ih =>
    simp only [checkColumns]
    split
    · next same => simp [same]
    · next different =>
      split
      · next repeated =>
        simp only [reduceCtorEq, false_iff, not_and]
        intro _ fresh
        exact absurd repeated (fresh name (by simp))
      · next new =>
        rw [ih]
        simp only [List.mem_cons, not_or, List.nodup_cons]
        constructor
        · rintro ⟨notIdentity, fresh, distinct⟩
          refine ⟨⟨fun same => different same.symm, notIdentity⟩, ?_, ?_, distinct⟩
          · rintro other (rfl | member)
            · exact new
            · exact (fresh other member).2
          · intro member
            exact (fresh name member).1 rfl
        · rintro ⟨⟨_, notIdentity⟩, fresh, notMember, distinct⟩
          refine ⟨notIdentity, ?_, distinct⟩
          intro other member
          refine ⟨?_, fresh other (.inr member)⟩
          rintro rfl
          exact notMember member

/-- One step of building a schema. -/
inductive Step where
  /-- Names the identity column; the last such step counts. -/
  | identity (name : String)
  /-- Adds a column behind those added before. -/
  | column (column : Column)
  /-- Makes the entity a child of another; the last such step counts. -/
  | childOf (parent : String)
  deriving DecidableEq, Inhabited

/-- The schema so far, the marker column not yet added. -/
def Step.apply (schema : Schema) : Step → Schema
  | .identity name => { schema with identity := name }
  | .column added => { schema with columns := schema.columns ++ [added] }
  | .childOf parent => { schema with parent? := some parent }

/-- The column by which rows of a child entity refer to their parent. -/
def parentMarker (parent : String) : Column :=
  ⟨parentColumnName parent, none, .integer .int64, .oneToManyChildMarker, true⟩

/-- What the steps describe: the identity is `id` unless they say otherwise, and the marker column
of a child goes last, so that the declared order is kept. -/
def draft (target : String) (steps : List Step) : Schema :=
  let schema := steps.foldl Step.apply ⟨target, "id", [], none⟩
  match schema.parent? with
  | none => schema
  | some parent => { schema with columns := schema.columns ++ [parentMarker parent] }

/-- Builds a schema, or tells the first structural rule that it breaks. -/
def build (target : String) (steps : List Step) : Except SchemaError Schema :=
  let schema := draft target steps
  match schema.check with
  | .ok () => .ok schema
  | .error fault => .error fault

end Schema

end EntityTables
