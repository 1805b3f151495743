/-
# EntityTables.Proofs.Derive.Restated — the schema that a derived adapter states again

A derived adapter states its schema again, under the full paths of its type and its parent. The
columns with a field come out as they were declared, so the entity type of the declaration is one
for the schema that the program runs with.

* `Column.IsNormal` — a column that its statement makes again; `column_ofColumn`.
* `derive_spec` — the columns of a derived schema.
* `isFor_of_derive` — the entity type of a declaration is for its schema at run time.
-/
import EntityTables.Derive.Entity
import EntityTables.Proofs.Entity.RoundTrip

namespace EntityTables

set_option autoImplicit false

/-! ## Columns stated again -/

namespace Column

/-- A column of the kind that its type implies, for a field that is mentioned only if its name is
another. -/
def IsNormal (column : Column) : Prop := column.IsPlain ∧ column.field? ≠ some column.name

theorem IsPlain.hasField {column : Column} (plain : column.IsPlain) : column.hasField = true := by
  have kind : column.kind = .of column.declaredType := plain
  unfold Column.hasField
  rw [kind]
  simpa using ColumnKind.of_ne_childMarker column.declaredType

theorem IsNormal.hasField {column : Column} (normal : column.IsNormal) :
    column.hasField = true := normal.1.hasField

end Column

/-- The statement of a column makes the column again. -/
theorem Adapter.ColumnTerm.column_ofColumn {column : Column} (normal : column.IsNormal) :
    (ofColumn column).column = column := by
  obtain ⟨name, field?, declared, kind, nullable⟩ := column
  obtain ⟨plain, mention⟩ := normal
  have same : kind = .of declared := plain
  subst same
  cases field? with
  | none => cases nullable <;> simp [ofColumn, ColumnTerm.column, Column.field, Column.ofField,
      Column.makeNullable]
  | some field =>
    have apart : field ≠ name := fun same => mention (congrArg some same)
    cases nullable <;> simp [ofColumn, ColumnTerm.column, Column.field, Column.ofField,
      Column.withField, Column.makeNullable, apart]

namespace Derive

open EntityTables.Source

theorem Candidate.isNormal_column (candidate : Candidate) : candidate.column.IsNormal := by
  have named (name field : String) (declared : DeclaredType) :
      ((Column.ofField name declared).withField field).IsNormal := by
    refine ⟨(Column.isPlain_ofField name declared).withField field, ?_⟩
    by_cases same : field = name
    · simp [Column.withField, Column.ofField, same]
    · simp [Column.withField, Column.ofField, same]
  unfold Candidate.column
  simp only
  split
  · exact named _ _ _
  · exact named _ _ _

/-- Every field is looked at, in order. -/
theorem candidates_fields {marked : Bool} {fields : List Field} {found : List Candidate}
    (looked : candidates marked fields = .ok found) : found.map Candidate.field = fields := by
  induction fields generalizing marked found with
  | nil =>
    cases looked
    rfl
  | cons field rest ih =>
    rw [candidates, bind_eq_ok_iff] at looked
    obtain ⟨attributes, -, looked⟩ := looked
    obtain ⟨-, -, looked⟩ := bind_eq_ok_iff.mp looked
    obtain ⟨others, behind, made⟩ := bind_eq_ok_iff.mp looked
    cases made
    rw [List.map_cons, ih behind]

theorem splitIdentity_sublist {item : Item} {found mapped : List Candidate} {identity : String}
    (split : splitIdentity item found = .ok (identity, mapped)) : mapped.Sublist found := by
  unfold splitIdentity at split
  split at split
  · cases split
    exact List.filter_sublist
  · split at split
    · obtain ⟨-, -, made⟩ := bind_eq_ok_iff.mp split
      cases made
      unfold eraseLast
      have fewer := (List.eraseP_sublist (p := Candidate.isNamedId) (l := found.reverse)).reverse
      rwa [List.reverse_reverse] at fewer
    · cases split

end Derive

/-- A struct's fields have different names. -/
def Source.Item.FieldsDistinct (item : Source.Item) : Prop :=
  ∀ fields, Derive.namedFields item = .ok fields → (fields.map Source.Field.name).Nodup

namespace Derive

open EntityTables.Source

/-- A derived schema is built from the columns of the declaration's fields and compiled. -/
theorem derive_eq_ok {item : Item} {compiled : Compiled} (derived : derive item = .ok compiled) :
    ∃ fields mapped identity parent? schema, namedFields item = .ok fields ∧
      (mapped.map Candidate.field).Sublist fields ∧
        Schema.build item.name (schemaSteps identity mapped parent?) = .ok schema ∧
          schema.compile = .ok compiled := by
  unfold derive at derived
  obtain ⟨fields, named, derived⟩ := bind_eq_ok_iff.mp derived
  obtain ⟨parent?, -, derived⟩ := bind_eq_ok_iff.mp derived
  obtain ⟨found, looked, derived⟩ := bind_eq_ok_iff.mp derived
  obtain ⟨⟨identity, mapped⟩, parts, derived⟩ := bind_eq_ok_iff.mp derived
  simp only at derived
  split at derived
  · next made whole =>
    cases derived
    obtain ⟨schema, built, compiles⟩ := bind_eq_ok_iff.mp whole
    refine ⟨fields, mapped, identity, parent?, schema, named, ?_, built, compiles⟩
    rw [← candidates_fields looked]
    exact (splitIdentity_sublist parts).map Candidate.field
  · cases derived

/-- The columns that the steps of a derived schema add are those of the candidates. -/
theorem added_schemaSteps (identity : String) (mapped : List Candidate)
    (parent? : Option String) :
    (schemaSteps identity mapped parent?).filterMap Schema.Step.added? =
      mapped.map Candidate.column := by
  have added : (mapped.map fun candidate => Schema.Step.column candidate.column).filterMap
      Schema.Step.added? = mapped.map Candidate.column := by
    rw [List.filterMap_map, ← List.filterMap_eq_map]
    rfl
  unfold schemaSteps
  rw [List.cons_append, List.filterMap_cons_none rfl, List.filterMap_append, added]
  cases parent? with
  | none => exact List.append_nil _
  | some parent => exact List.append_nil _

/-- The columns of a derived schema are normal and have a field each, all different, and behind them
stands the reference to a parent, if there is one. -/
theorem derive_spec {item : Item} {compiled : Compiled} (derived : derive item = .ok compiled)
    (distinct : item.FieldsDistinct) :
    compiled.schema.compile = .ok compiled ∧ ∃ columns,
      compiled.schema.columns = columns ++ (compiled.schema.parent?.map Schema.parentMarker).toList ∧
      (∀ column ∈ columns, column.IsNormal) ∧ (columns.map Column.field).Nodup := by
  obtain ⟨fields, mapped, identity, parent?, schema, named, among, built, compiles⟩ :=
    derive_eq_ok derived
  obtain ⟨-, -, same, -⟩ := Schema.compile_eq_ok_iff.mp compiles
  subst same
  refine ⟨compiles, mapped.map Candidate.column, ?_, ?_, ?_⟩
  · rw [Schema.columns_of_build built, added_schemaSteps]
  · intro column member
    obtain ⟨candidate, -, rfl⟩ := List.mem_map.mp member
    exact candidate.isNormal_column
  · have names : (mapped.map Candidate.column).map Column.field =
        (mapped.map Candidate.field).map Source.Field.name := by
      rw [List.map_map, List.map_map]
      refine List.map_congr_left fun candidate _ => ?_
      simp only [Function.comp_apply, Candidate.column]
      split
      · exact Column.field_withField _ _
      · exact Column.field_withField _ _
    rw [names]
    exact (distinct fields named).sublist (among.map Source.Field.name)

end Derive

/-! ## The schema at run time -/

/-- The reference to a parent, if there is one, is the last column, and all others have fields. -/
def Schema.MarkerLast (schema : Schema) : Prop :=
  ∃ columns, schema.columns = columns ++ (schema.parent?.map parentMarker).toList ∧
    ∀ column ∈ columns, column.hasField = true

theorem Schema.filter_hasField {columns : List Column} {parent? : Option String}
    (normal : ∀ column ∈ columns, column.IsNormal) :
    (columns ++ (parent?.map Schema.parentMarker).toList).filter Column.hasField = columns := by
  rw [List.filter_append, List.filter_eq_self.mpr fun column member => (normal column member).hasField]
  cases parent? with
  | none => exact List.append_nil columns
  | some parent => exact List.append_nil columns

/-- Schemas with the same columns for fields have the same plans for them. -/
theorem Compiled.mapped_unique {compiled other : Compiled}
    (first : compiled.schema.compile = .ok compiled) (second : other.schema.compile = .ok other)
    (same : compiled.schema.columns.filter Column.hasField =
      other.schema.columns.filter Column.hasField) : compiled.mapped = other.mapped := by
  have fewer (columns : List Column) : (columns.filter fun column => !column.kind.isRelation) =
      (columns.filter Column.hasField).filter fun column => !column.kind.isRelation := by
    rw [List.filter_filter]
    refine List.filter_congr fun column _ => ?_
    unfold Column.hasField
    cases column.kind <;> rfl
  have planned {made : Compiled} (compiles : made.schema.compile = .ok made) :
      Schema.plans ⟨"", "", made.schema.columns.filter fun column => !column.kind.isRelation,
        none⟩ = .ok made.mapped := by
    obtain ⟨-, resolved⟩ := Schema.plans_eq_ok_iff.mp (Schema.compile_eq_ok_iff.mp compiles).2.1
    exact Schema.plans_eq_ok_iff.mpr ⟨Compiled.map_column_mapped compiles,
      fun plan member => resolved plan (List.mem_of_mem_filter member)⟩
  have plans := planned first
  rw [fewer, same, ← fewer, planned second] at plans
  exact (Except.ok.inj plans).symm

namespace Mapping

variable {mapping : Mapping} {compiled : Compiled}

theorem compile_eq_ok_iff :
    mapping.compile = .ok compiled ↔
      mapping.schema = .ok compiled.schema ∧ compiled.schema.compile = .ok compiled := by
  unfold compile
  rw [bind_eq_ok_iff]
  constructor
  · rintro ⟨schema, stated, compiles⟩
    obtain ⟨-, -, same, -⟩ := Schema.compile_eq_ok_iff.mp compiles
    subst same
    exact ⟨stated, compiles⟩
  · rintro ⟨stated, compiles⟩
    exact ⟨_, stated, compiles⟩

end Mapping

/-- The steps by which an adapter states a schema again. -/
theorem Adapter.Code.added_steps {compiled : Compiled} {columns : List Column}
    (fields : compiled.schema.columns.filter Column.hasField = columns)
    (normal : ∀ column ∈ columns, column.IsNormal) (typePath : String → String) :
    ((ofCompiled compiled).steps typePath).filterMap Schema.Step.added? = columns := by
  have terms : (ofCompiled compiled).columns.map ColumnTerm.column = columns := by
    have stated : (ofCompiled compiled).columns = columns.map ColumnTerm.ofColumn :=
      congrArg (List.map ColumnTerm.ofColumn) fields
    rw [stated, List.map_map]
    refine (List.map_congr_left fun column member => ?_).trans (List.map_id columns)
    exact ColumnTerm.column_ofColumn (normal column member)
  have added : ((ofCompiled compiled).columns.map fun term =>
      Schema.Step.column term.column).filterMap Schema.Step.added? = columns := by
    rw [List.filterMap_map, ← terms, ← List.filterMap_eq_map]
    rfl
  unfold steps
  rw [List.cons_append, List.filterMap_cons_none rfl, List.filterMap_append, added]
  cases (ofCompiled compiled).parent? with
  | none => exact List.append_nil columns
  | some parent => exact List.append_nil columns

/-- Steps that add columns change nothing else. -/
theorem Schema.foldl_columns (columns : List Column) (start : Schema) :
    (columns.map Schema.Step.column).foldl Schema.Step.apply start =
      { start with columns := start.columns ++ columns } := by
  induction columns generalizing start with
  | nil => simp
  | cons column rest ih =>
    rw [List.map_cons, List.foldl_cons, ih]
    simp [Schema.Step.apply]

/-- Of the steps of an adapter, only the first names an identity and only the last a parent. -/
theorem Adapter.Code.draft_steps (code : Code) (path : String) (typePath : String → String) :
    (Schema.draft path (code.steps typePath)).identity = code.identity ∧
      (Schema.draft path (code.steps typePath)).parent? = code.parent?.map typePath := by
  have columns : code.columns.map (fun term => Schema.Step.column term.column) =
      (code.columns.map ColumnTerm.column).map Schema.Step.column := by
    rw [List.map_map]
    rfl
  unfold Schema.draft steps
  rw [columns, List.cons_append, List.foldl_cons, List.foldl_append, Schema.foldl_columns]
  cases code.parent? <;> exact ⟨rfl, rfl⟩

/-- At run time the schema of a derived entity has the columns of its declaration, and the entity
type of the declaration is for it. -/
theorem EntityType.isFor_of_derive {objects : Objects} {item : Source.Item} {derived compiled : Compiled}
    {path : String} {parentPath? : Option String} {entity : EntityType objects}
    (made : Derive.derive item = .ok derived) (distinct : item.FieldsDistinct)
    (typed : EntityType.ofCompiled? derived path parentPath? = some entity)
    (compiles : entity.toMapping.compile = .ok compiled) :
    entity.IsFor compiled.schema compiled ∧
      compiled.schema.parent? = derived.schema.parent?.map (parentPath?.getD ·) ∧
        compiled.schema.MarkerLast := by
  obtain ⟨whole, columns, all, normal, names⟩ := Derive.derive_spec made distinct
  obtain ⟨layout, known, rfl⟩ := Option.map_eq_some_iff.mp typed
  obtain ⟨stated, compiles⟩ := Mapping.compile_eq_ok_iff.mp compiles
  have fields : derived.schema.columns.filter Column.hasField = columns := by
    rw [all, Schema.filter_hasField normal]
  -- the schema is built once more at run time, from what the adapter states of it
  have again := Schema.columns_of_build stated
  rw [Adapter.Code.added_steps fields normal] at again
  have restated : compiled.schema.columns.filter Column.hasField = columns := by
    rw [again, Schema.filter_hasField normal]
  obtain ⟨identity, parent⟩ := Adapter.Code.draft_steps (.ofCompiled derived) path
    fun named => parentPath?.getD named
  have drafted := Schema.draft_of_build stated
  rw [drafted] at identity parent
  have mapped := Compiled.mapped_unique compiles whole (restated.trans fields.symm)
  have marked : compiled.schema.MarkerLast :=
    ⟨columns, again, fun column member => (normal column member).hasField⟩
  refine ⟨⟨compiles, ?_, ?_, ?_, rfl, identity.symm, ?_, ?_⟩, parent, marked⟩
  · intro column member kept
    have among : column ∈ compiled.schema.columns.filter Column.hasField :=
      List.mem_filter.mpr ⟨member, kept⟩
    rw [restated] at among
    exact (normal column among).1
  · rw [restated]
    exact names
  · rw [← known]
    unfold Layout.ofColumns?
    exact congrArg _ (restated.trans fields.symm)
  · exact congrArg (List.map Adapter.Write.ofPlan) mapped.symm
  · exact congrArg (List.map Adapter.Read.ofPlan) mapped.symm

end EntityTables
