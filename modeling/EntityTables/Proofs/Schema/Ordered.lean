/-
# EntityTables.Proofs.Schema.Ordered — schemas from steps in the usual order

A declaration names its identity first, then adds its columns, and names its parent last. An adapter
states its schema by steps in the same order, whatever steps the schema was built from.

* `Schema.ordered` — steps in this order; `draft_ordered` — what they describe.
* `Schema.compiles_ordered_iff` — the rules that decide whether they make a compiled schema.
* `Adapter.Code.steps_ofCompiled` — the steps by which an adapter states a schema.
* `build_steps_ofCompiled` — stated under the same paths, a schema is built as it was.
-/
import EntityTables.Proofs.Derive.Restated

namespace EntityTables

set_option autoImplicit false

namespace Schema

variable {target identity : String} {columns : List Column} {parent? : Option String}

/-- The identity first, then the columns, and the parent last. -/
def ordered (identity : String) (columns : List Column) (parent? : Option String) : List Step :=
  .identity identity :: columns.map .column ++ (parent?.map Step.childOf).toList

theorem draft_ordered (target identity : String) (columns : List Column)
    (parent? : Option String) :
    draft target (ordered identity columns parent?) =
      ⟨target, identity, columns ++ (parent?.map parentMarker).toList, parent?⟩ := by
  unfold draft ordered
  rw [List.cons_append, List.foldl_cons, List.foldl_append, foldl_columns]
  cases parent? with
  | none => simp [Step.apply]
  | some parent => simp [Step.apply]

/-- The structural rules: no blank target or identity, and no name twice. -/
theorem check_eq_ok_iff {schema : Schema} :
    schema.check = .ok () ↔
      Text.allBlank schema.target = false ∧ Text.allBlank schema.identity = false ∧
        (schema.identity :: schema.columns.map Column.name).Nodup := by
  unfold check
  cases blankTarget : Text.allBlank schema.target with
  | true => simp
  | false =>
    cases blankIdentity : Text.allBlank schema.identity with
    | true => simp
    | false => simp [checkColumns_eq_ok_iff]

theorem build_eq_ok_iff {steps : List Step} {schema : Schema} :
    build target steps = .ok schema ↔ draft target steps = schema ∧ schema.check = .ok () := by
  unfold build
  simp only
  cases checked : (draft target steps).check with
  | ok done =>
    constructor
    · rintro ⟨⟩
      exact ⟨rfl, checked⟩
    · rintro ⟨rfl, -⟩
      rfl
  | error fault =>
    constructor
    · rintro ⟨⟩
    · rintro ⟨rfl, passed⟩
      rw [checked] at passed
      cases passed

/-- Every column has a plan unless one has a type without a column form. -/
theorem exists_plans_iff {schema : Schema} :
    (∃ plans, schema.plans = .ok plans) ↔
      ∀ column ∈ schema.columns, column.declaredType.resolve? ≠ none := by
  constructor
  · rintro ⟨plans, planned⟩ column member
    obtain ⟨columns, resolved⟩ := plans_eq_ok_iff.mp planned
    rw [← columns] at member
    obtain ⟨plan, among, rfl⟩ := List.mem_map.mp member
    rw [resolved plan among]
    exact Option.some_ne_none _
  · intro formed
    unfold plans
    generalize schema.columns = columns at formed
    induction columns with
    | nil => exact ⟨[], rfl⟩
    | cons column rest ih =>
      obtain ⟨others, behind⟩ := ih fun other among => formed other (List.mem_cons_of_mem _ among)
      obtain ⟨⟨storage, reader⟩, resolved⟩ :=
        Option.ne_none_iff_exists'.mp (formed column List.mem_cons_self)
      refine ⟨⟨column, storage, reader⟩ :: others, ?_⟩
      rw [List.mapM_cons, bind_eq_ok_iff]
      exact ⟨_, ofColumn_eq_ok_iff.mpr ⟨rfl, resolved⟩, bind_eq_ok_iff.mpr ⟨others, behind, rfl⟩⟩

/-- Steps in the usual order make a compiled schema if neither target nor identity is blank, no
column has a type without a column form, no name is there twice, and no name is that of the
reference to the parent. -/
theorem compiles_ordered_iff :
    (∃ compiled, build target (ordered identity columns parent?) >>= compile = .ok compiled) ↔
      Text.allBlank target = false ∧ Text.allBlank identity = false ∧
        (∀ column ∈ columns, column.declaredType.resolve? ≠ none) ∧
        (identity :: columns.map Column.name).Nodup ∧
        ∀ parent ∈ parent?, parentColumnName parent ∉ identity :: columns.map Column.name := by
  have made : (∃ compiled, build target (ordered identity columns parent?) >>= compile =
        .ok compiled) ↔
      (draft target (ordered identity columns parent?)).check = .ok () ∧
        ∃ plans, (draft target (ordered identity columns parent?)).plans = .ok plans := by
    constructor
    · rintro ⟨compiled, whole⟩
      obtain ⟨schema, built, compiles⟩ := bind_eq_ok_iff.mp whole
      obtain ⟨rfl, checked⟩ := build_eq_ok_iff.mp built
      exact ⟨checked, _, (compile_eq_ok_iff.mp compiles).2.1⟩
    · rintro ⟨checked, plans, planned⟩
      exact ⟨⟨_, definition _ plans, plans⟩, bind_eq_ok_iff.mpr
        ⟨_, build_eq_ok_iff.mpr ⟨rfl, checked⟩, compile_eq_ok_iff.mpr
          ⟨checked, planned, rfl, rfl⟩⟩⟩
  -- the reference to the parent is one more column, of a type with a column form
  have types : (∀ column ∈ columns ++ (parent?.map parentMarker).toList,
      column.declaredType.resolve? ≠ none) ↔
        ∀ column ∈ columns, column.declaredType.resolve? ≠ none := by
    have typed (parent : String) : (parentMarker parent).declaredType.resolve? ≠ none :=
      Option.some_ne_none _
    cases parent? with
    | none => simp
    | some parent => simp [or_imp, forall_and, typed]
  have names : (identity :: (columns ++ (parent?.map parentMarker).toList).map Column.name).Nodup ↔
      (identity :: columns.map Column.name).Nodup ∧
        ∀ parent ∈ parent?, parentColumnName parent ∉ identity :: columns.map Column.name := by
    cases parent? with
    | none => simp
    | some parent =>
      have named : (identity :: (columns ++ [parentMarker parent]).map Column.name) =
          (identity :: columns.map Column.name) ++ [parentColumnName parent] := by
        rw [List.map_append]
        rfl
      have last (own : List String) (name : String) :
          (own ++ [name]).Nodup ↔ own.Nodup ∧ name ∉ own := by
        rw [← List.concat_eq_append, List.nodup_concat, and_comm]
      simp only [Option.map_some, Option.toList_some, Option.mem_some_iff, forall_eq']
      rw [named, last]
  rw [made, exists_plans_iff, check_eq_ok_iff, draft_ordered, types, names]
  constructor
  · rintro ⟨⟨target, identity, distinct, apart⟩, formed⟩
    exact ⟨target, identity, formed, distinct, apart⟩
  · rintro ⟨target, identity, formed, distinct, apart⟩
    exact ⟨⟨target, identity, distinct, apart⟩, formed⟩

end Schema

/-- The columns of a schema as an adapter states them. -/
def Schema.statedColumns (schema : Schema) : List Column :=
  (schema.columns.filter Column.hasField).map fun column =>
    (Adapter.ColumnTerm.ofColumn column).column

/-- An adapter states its schema by steps in the usual order. -/
theorem Adapter.Code.steps_eq_ordered (compiled : Compiled) (typePath : String → String) :
    (ofCompiled compiled).steps typePath =
      Schema.ordered compiled.schema.identity compiled.schema.statedColumns
        (compiled.schema.parent?.map typePath) := by
  unfold steps Schema.ordered Schema.statedColumns ofCompiled
  simp only [List.map_map]
  cases compiled.schema.parent? <;> rfl

/-- Normal columns are stated as they are. -/
theorem Adapter.Code.steps_ofCompiled {compiled : Compiled} {columns : List Column}
    (fields : compiled.schema.columns.filter Column.hasField = columns)
    (normal : ∀ column ∈ columns, column.IsNormal) (typePath : String → String) :
    (ofCompiled compiled).steps typePath =
      Schema.ordered compiled.schema.identity columns (compiled.schema.parent?.map typePath) := by
  have stated : compiled.schema.statedColumns = columns := by
    rw [Schema.statedColumns, fields]
    exact (List.map_congr_left fun column member =>
      ColumnTerm.column_ofColumn (normal column member)).trans (List.map_id _)
  rw [steps_eq_ordered, stated]

/-- Stated under the paths it was built with, a schema is built as it was. -/
theorem Schema.build_steps_ofCompiled {target : String} {steps : List Step} {schema : Schema}
    {compiled : Compiled} (built : build target steps = .ok schema)
    (normal : ∀ column, .column column ∈ steps → column.IsNormal)
    (compiles : schema.compile = .ok compiled) :
    build target ((Adapter.Code.ofCompiled compiled).steps id) = .ok schema := by
  obtain ⟨-, -, same, -⟩ := compile_eq_ok_iff.mp compiles
  have added : ∀ column ∈ steps.filterMap Step.added?, column.IsNormal :=
    fun column member => normal column (mem_added_iff.mp member)
  have fields : compiled.schema.columns.filter Column.hasField =
      steps.filterMap Step.added? := by
    rw [same, columns_of_build built, filter_hasField added]
  refine build_eq_ok_iff.mpr ⟨?_, (build_eq_ok_iff.mp built).2⟩
  rw [Adapter.Code.steps_ofCompiled fields added, draft_ordered, same, Option.map_id_fun, id,
    ← columns_of_build built, ← target_of_build built]

end EntityTables
