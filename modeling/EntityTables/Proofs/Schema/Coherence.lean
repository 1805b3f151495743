/-
# EntityTables.Proofs.Schema.Coherence — schemas that say the same twice

A column states its type and its kind, and a child states its parent and a marker for it. Where a
schema is built, one follows from the other; where it is read from a text, each is taken as it is
written, and no rule compares them. The adapter states only types and the parent, so the schema that
it builds again is the one it was made from exactly if that was coherent.

* `Schema.Coherent` — kinds follow from types, and the marker from the parent.
* `Schema.tidied` — the same schema with no field mentioned that needs no mention.
* `Schema.coherent_iff` — which accepted schemas are stated again by their adapters;
  `Schema.orphan_accepted` — one that is not.
-/
import EntityTables.Proofs.Adapter.Restatement
import EntityTables.Proofs.Schema.Stored

namespace EntityTables

set_option autoImplicit false

open Adapter

namespace Column

/-- The reference to a parent, whatever field it may mention. -/
structure RefersTo (column : Column) (parent : String) : Prop where
  named : column.name = tableName parent ++ "_id"
  typed : column.declaredType = .integer .int64
  marks : column.kind = .oneToManyChildMarker
  optional : column.nullable = true

/-- The same column, its field mentioned only if it has one and that is named differently. -/
def tidied (column : Column) : Column :=
  { column with
    field? := if column.hasField = true ∧ column.field ≠ column.name then some column.field
      else none }

theorem refersTo_iff {column : Column} {parent : String} :
    column.RefersTo parent ↔ column.tidied = Schema.parentMarker parent := by
  constructor
  · rintro ⟨named, typed, marks, optional⟩
    simp [tidied, hasField, Schema.parentMarker, parentColumnName, named, typed, marks, optional]
  · intro same
    exact ⟨congrArg name same, congrArg declaredType same, congrArg kind same,
      congrArg nullable same⟩

/-- A column that has a field keeps it. -/
theorem field_tidied {column : Column} (fielded : column.hasField = true) :
    column.tidied.field = column.field := by
  unfold tidied
  by_cases same : column.field = column.name
  · rw [if_neg fun both => both.2 same, same]
    rfl
  · rw [if_pos ⟨fielded, same⟩]
    rfl

theorem IsPlain.isNormal_tidied {column : Column} (plain : column.IsPlain) :
    column.tidied.IsNormal := by
  refine ⟨plain, ?_⟩
  unfold tidied
  simp only
  split
  · next apart => exact fun same => apart.2 (Option.some.inj same)
  · exact nofun

end Column

/-- Whatever a column is, its statement makes a normal one. -/
theorem Adapter.ColumnTerm.isNormal_column (term : ColumnTerm) : term.column.IsNormal := by
  refine Column.Declared.isNormal ?_
  have plain := Column.Declared.ofField term.name term.declaredType
  unfold column
  cases term.field? with
  | none =>
    cases term.nullable with
    | true => exact plain.makeNullable
    | false => exact plain
  | some field =>
    cases term.nullable with
    | true => exact (plain.withField field).makeNullable
    | false => exact plain.withField field

/-- The statement of a column whose kind follows from its type makes that column again. -/
theorem Column.IsPlain.column_ofColumn {column : Column} (plain : column.IsPlain) :
    (ColumnTerm.ofColumn column).column = column.tidied := by
  have term : ColumnTerm.ofColumn column.tidied = ColumnTerm.ofColumn column := by
    unfold ColumnTerm.ofColumn
    rw [field_tidied plain.hasField]
    rfl
  rw [← term, ColumnTerm.column_ofColumn plain.isNormal_tidied]

namespace Schema

variable {schema : Schema} {compiled : Compiled}

/-- Every column is of the kind that its type implies, but for a reference to the parent, which is
there exactly if there is a parent, and then once and last. -/
def Coherent (schema : Schema) : Prop :=
  ∃ plain : List Column, (∀ column ∈ plain, column.IsPlain) ∧
    match schema.parent? with
    | none => schema.columns = plain
    | some parent => ∃ marker, schema.columns = plain ++ [marker] ∧ marker.RefersTo parent

/-- The same schema, its columns tidied. -/
def tidied (schema : Schema) : Schema :=
  { schema with columns := schema.columns.map Column.tidied }

/-- The schema that the adapter states. -/
def restated (schema : Schema) : Schema :=
  { schema with columns := schema.statedColumns ++ (schema.parent?.map parentMarker).toList }

/-- The marker, tidied, is the one that a parent implies. -/
theorem coherent_iff_split :
    schema.Coherent ↔ ∃ plain markers, schema.columns = plain ++ markers ∧
      (∀ column ∈ plain, column.IsPlain) ∧
        markers.map Column.tidied = (schema.parent?.map parentMarker).toList := by
  unfold Coherent
  cases schema.parent? with
  | none =>
    simp only [Option.map_none, Option.toList_none, List.map_eq_nil_iff]
    constructor
    · rintro ⟨plain, implied, whole⟩
      exact ⟨plain, [], by rw [whole, List.append_nil], implied, rfl⟩
    · rintro ⟨plain, markers, whole, implied, rfl⟩
      exact ⟨plain, implied, by rw [whole, List.append_nil]⟩
  | some parent =>
    simp only [Option.map_some, Option.toList_some, List.map_eq_singleton_iff]
    constructor
    · rintro ⟨plain, implied, marker, whole, refers⟩
      exact ⟨plain, [marker], whole, implied, marker, rfl, Column.refersTo_iff.mp refers⟩
    · rintro ⟨plain, -, whole, implied, marker, rfl, same⟩
      exact ⟨plain, implied, marker, whole, Column.refersTo_iff.mpr same⟩

/-- An adapter states its schema, but for needless fields, exactly if the schema is coherent. -/
theorem restated_eq_tidied_iff : schema.restated = schema.tidied ↔ schema.Coherent := by
  have columns : schema.restated = schema.tidied ↔
      schema.columns.map Column.tidied =
        schema.statedColumns ++ (schema.parent?.map parentMarker).toList := by
    unfold restated tidied
    rw [Schema.mk.injEq]
    exact ⟨fun same => same.2.2.1.symm, fun same => ⟨rfl, rfl, same.symm, rfl⟩⟩
  rw [columns, coherent_iff_split]
  constructor
  · intro same
    obtain ⟨plain, markers, whole, stated, marked⟩ := List.map_eq_append_iff.mp same
    refine ⟨plain, markers, whole, fun column member => ?_, marked⟩
    have among := List.mem_map_of_mem (f := Column.tidied) member
    rw [stated] at among
    obtain ⟨other, -, made⟩ := List.mem_map.mp among
    have normal := (ColumnTerm.ofColumn other).isNormal_column
    rw [made] at normal
    exact normal.1
  · rintro ⟨plain, markers, whole, implied, marked⟩
    have none (column : Column) (member : column ∈ markers) : column.hasField = false := by
      have among := List.mem_map_of_mem (f := Column.tidied) member
      rw [marked] at among
      obtain ⟨parent, -, made⟩ := Option.map_eq_some_iff.mp (Option.mem_toList.mp among)
      exact (congrArg Column.hasField made).symm
    have fields : schema.columns.filter Column.hasField = plain := by
      rw [whole, List.filter_append,
        List.filter_eq_self.mpr fun column member => (implied column member).hasField,
        List.filter_eq_nil_iff.mpr fun column member => by simp [none column member],
        List.append_nil]
    rw [statedColumns, fields, whole, List.map_append, marked]
    exact congrArg (· ++ _) (List.map_congr_left fun column member =>
      (implied column member).column_ofColumn.symm)

/-! ## What the adapter builds -/

/-- The adapter builds the schema that it states, if this keeps the structural rules. -/
theorem build_ofCompiled (compiles : schema.compile = .ok compiled) :
    build schema.target ((Code.ofCompiled compiled).steps id) =
      schema.restated.check.map fun _ => schema.restated := by
  have stated : draft schema.target ((Code.ofCompiled compiled).steps id) = schema.restated := by
    rw [Code.steps_eq_ordered, draft_ordered, (compile_eq_ok_iff.mp compiles).2.2.1,
      Option.map_id_fun]
    rfl
  unfold build
  rw [stated]
  simp only
  cases schema.restated.check <;> rfl

theorem check_tidied (schema : Schema) : schema.tidied.check = schema.check := by
  have names : schema.tidied.columns.map Column.name = schema.columns.map Column.name := by
    rw [tidied, List.map_map]
    rfl
  unfold check
  rw [names]
  rfl

/-- A tidied schema has the same table. -/
theorem compile_tidied (compiles : schema.compile = .ok compiled) :
    schema.tidied.compile = .ok ⟨schema.tidied, compiled.createStatement,
      compiled.plans.map fun plan => { plan with column := plan.column.tidied }⟩ := by
  obtain ⟨checked, planned, same, written⟩ := compile_eq_ok_iff.mp compiles
  obtain ⟨columns, resolved⟩ := plans_eq_ok_iff.mp planned
  have clauses : definitionClauses schema.identity
      (compiled.plans.map fun plan => { plan with column := plan.column.tidied }) =
        definitionClauses schema.identity compiled.plans := by
    unfold definitionClauses
    rw [List.filter_map, List.map_map]
    rfl
  refine compile_eq_ok_iff.mpr ⟨check_tidied schema ▸ checked, ?_, rfl, ?_⟩
  · refine plans_eq_ok_iff.mpr ⟨?_, List.forall_mem_map.mpr resolved⟩
    rw [tidied, ← columns, List.map_map, List.map_map]
    rfl
  · exact written.trans (congrArg (fun clauses => "CREATE TABLE " ++ Sql.quoteName schema.table ++
      " (" ++ ", ".intercalate clauses ++ ");") clauses.symm)

/-- What is built from declared columns is coherent. -/
theorem coherent_of_build {target : String} {steps : List Step}
    (built : build target steps = .ok schema)
    (declared : ∀ column, .column column ∈ steps → column.Declared) : schema.Coherent := by
  refine coherent_iff_split.mpr ⟨_, _, columns_of_build built, fun column member => ?_, ?_⟩
  · exact (declared column (mem_added_iff.mp member)).isNormal.1
  · cases schema.parent? <;> rfl

/-- A schema that is built is coherent, and an accepted one need not be. The schema block of its
adapter evaluates to a schema with kinds by types and the marker by the parent; this is the accepted
one, but for fields that need no mention, exactly if that is coherent, and then it has the same
table. -/
theorem coherent_iff (compiles : schema.compile = .ok compiled) :
    (∀ steps, (∀ column, .column column ∈ steps → column.Declared) →
      build schema.target steps = .ok schema → schema.Coherent) ∧
    (∃ front back, render compiled = front ++ (Code.ofCompiled compiled).schemaText ++ back) ∧
    evaluate (typePaths schema.target schema.parent? id) (Code.ofCompiled compiled).schemaText =
      some (schema.restated.check.map fun _ => schema.restated) ∧
    (schema.Coherent ↔
      evaluate (typePaths schema.target schema.parent? id) (Code.ofCompiled compiled).schemaText =
        some (.ok schema.tidied)) ∧
    ∃ again, schema.tidied.compile = .ok again ∧
      again.createStatement = compiled.createStatement := by
  obtain ⟨checked, -, same, -⟩ := compile_eq_ok_iff.mp compiles
  have parent : (Code.ofCompiled compiled).parent? = schema.parent? := congrArg Schema.parent? same
  have value : evaluate (typePaths schema.target schema.parent? id)
      (Code.ofCompiled compiled).schemaText =
        some (schema.restated.check.map fun _ => schema.restated) := by
    rw [← parent, Code.evaluate_schemaText, build_ofCompiled compiles]
  refine ⟨fun steps declared built => coherent_of_build built declared,
    (Code.ofCompiled compiled).source_eq_schemaText, value, ?_, _, compile_tidied compiles, rfl⟩
  rw [value, Option.some.injEq]
  show _ ↔ (fun _ => schema.restated) <$> schema.restated.check = .ok schema.tidied
  rw [map_eq_ok_iff, ← restated_eq_tidied_iff]
  constructor
  · intro restored
    exact ⟨(), by rw [restored, check_tidied, checked], restored⟩
  · rintro ⟨-, -, restored⟩
    exact restored

/-- A schema as a text may state it: a field that needs no mention, and a marker for the parent. -/
def lineOfOrder : Schema :=
  ⟨"shop::Line", "id",
    [⟨"count", some "count", .integer .int32, .scalar, false⟩, parentMarker "shop::Order"],
    some "shop::Order"⟩

/-- It is stated again but for that field, with the same table. -/
theorem coherent_iff_lineOfOrder :
    lineOfOrder.Coherent ∧ lineOfOrder.tidied ≠ lineOfOrder ∧
      ∃ compiled again, lineOfOrder.compile = .ok compiled ∧
        evaluate (typePaths "shop::Line" (some "shop::Order") id)
          (Code.ofCompiled compiled).schemaText = some (.ok lineOfOrder.tidied) ∧
        lineOfOrder.tidied.compile = .ok again ∧
          again.createStatement = compiled.createStatement := by
  let plans : List ColumnPlan :=
    [⟨⟨"count", some "count", .integer .int32, .scalar, false⟩, .integer, .integer⟩,
      ⟨parentMarker "shop::Order", .integer, .integer⟩]
  have compiles : lineOfOrder.compile =
      .ok ⟨lineOfOrder, lineOfOrder.definition plans, plans⟩ :=
    compile_eq_ok_iff.mpr ⟨by decide, by decide, rfl, rfl⟩
  have coherent : lineOfOrder.Coherent := restated_eq_tidied_iff.mp (by decide)
  obtain ⟨-, -, -, exact, again, compilesAgain, same⟩ := coherent_iff compiles
  exact ⟨coherent, by decide, _, again, compiles, exact.mp coherent, compilesAgain, same⟩

/-- A schema as a text may state it: a parent, but no marker for it. -/
def orphan : Schema := ⟨"shop::Line", "id", [], some "shop::Order"⟩

/-- It is read and accepted, its table has no reference to the parent, and the schema that its
adapter builds has one. -/
theorem orphan_accepted :
    ofText? ("\x7b\"target_type\":\"shop::Line\",\"identity_column\":\"id\",\"columns\":[]," ++
        "\"parent_type\":\"shop::Order\"\x7d") = some orphan ∧
      ¬ orphan.Coherent ∧
      ∃ compiled again, orphan.compile = .ok compiled ∧
        compiled.createStatement =
          "CREATE TABLE shop_Line (id INTEGER PRIMARY KEY AUTOINCREMENT);" ∧
        evaluate (typePaths "shop::Line" (some "shop::Order") id)
          (Code.ofCompiled compiled).schemaText = some (.ok orphan.restated) ∧
        orphan.restated.compile = .ok again ∧
        again.createStatement =
          "CREATE TABLE shop_Line (id INTEGER PRIMARY KEY AUTOINCREMENT, " ++
            "shop_Order_id INTEGER);" := by
  have compiles : orphan.compile = .ok ⟨orphan, orphan.definition [], []⟩ :=
    compile_eq_ok_iff.mpr ⟨by decide, by decide, rfl, rfl⟩
  let plans : List ColumnPlan := [⟨parentMarker "shop::Order", .integer, .integer⟩]
  have compilesAgain : orphan.restated.compile =
      .ok ⟨orphan.restated, orphan.restated.definition plans, plans⟩ :=
    compile_eq_ok_iff.mpr ⟨by decide, by decide, rfl, rfl⟩
  refine ⟨ofText?_of_chars (by decide +kernel), ?_, _, _, compiles, by decide +kernel, ?_,
    compilesAgain, by decide +kernel⟩
  · rw [← restated_eq_tidied_iff]
    decide
  · have parent : (Code.ofCompiled ⟨orphan, orphan.definition [], []⟩).parent? =
        some "shop::Order" := rfl
    rw [← parent, Code.evaluate_schemaText]
    exact congrArg some (build_ofCompiled compiles)

end Schema

end EntityTables
