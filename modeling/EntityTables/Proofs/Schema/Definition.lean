/-
# EntityTables.Proofs.Schema.Definition — the definition of a table says what its schema says

Read by the rules of SQL text, the statement that creates the table of a compiled schema is one
table definition with the identity and the planned columns that stand in the table. A query selects
the same columns, and no column is written or read that is not among them.

* `Schema.script_definition` — a definition is one statement, whatever characters its names have.
* `Schema.compile_eq_ok_iff` — compiling succeeds where the rules hold and every column has a plan.
* `script_createStatement` — the definition read back, and the columns of a query beside it.
-/
import EntityTables.Entity.Basic
import EntityTables.Proofs.Action
import EntityTables.Proofs.Sql.Parsing

namespace EntityTables

set_option autoImplicit false

open Sql

/-! ## The text of a definition -/

/-- A planned column as a table definition has it. -/
def ColumnPlan.declared (plan : ColumnPlan) : String × Storage := (plan.column.name, plan.storage)

/-- The table definition that some plans make. -/
def Schema.tableOf (schema : Schema) (plans : List ColumnPlan) : TableDefinition :=
  ⟨schema.table, schema.identity, (plans.filter ColumnPlan.inTable).map ColumnPlan.declared⟩

namespace Schema

/-- A type name is a word. -/
theorem isWordText_sqlName (storage : Storage) : isWordText storage.sqlName = true := by
  cases storage <;> decide

/-- What stands behind the name of an identity. -/
theorem writes_identityType : Writes "INTEGER PRIMARY KEY AUTOINCREMENT"
    (["INTEGER", "PRIMARY", "KEY", "AUTOINCREMENT"].map .word) := by
  have text : "INTEGER PRIMARY KEY AUTOINCREMENT" =
      "INTEGER" ++ " " ++ "PRIMARY" ++ " " ++ "KEY" ++ " " ++ "AUTOINCREMENT" := by decide
  rw [text]
  exact (((Writes.word "INTEGER" (by decide)).blank (.word "PRIMARY" (by decide))).blank
    (.word "KEY" (by decide))).blank (.word "AUTOINCREMENT" (by decide))

theorem writes_sqlName (storage : Storage) : Writes storage.sqlName [.word storage.sqlName] :=
  .word storage.sqlName (isWordText_sqlName storage)

/-- The text of an identity is a name and its type. -/
theorem identity_text (identity : String) :
    quoteName identity ++ " INTEGER PRIMARY KEY AUTOINCREMENT" =
      quoteName identity ++ " " ++ "INTEGER PRIMARY KEY AUTOINCREMENT" :=
  String.toList_inj.mp (by simp)

theorem writes_identity {identity : String} (free : '\x00' ∉ identity.toList) :
    Writes (quoteName identity ++ " INTEGER PRIMARY KEY AUTOINCREMENT")
      (nameToken identity :: ["INTEGER", "PRIMARY", "KEY", "AUTOINCREMENT"].map .word) := by
  rw [identity_text]
  exact (Writes.name free).blank writes_identityType

theorem writes_column {plan : ColumnPlan} (free : '\x00' ∉ plan.column.name.toList) :
    Writes (quoteName plan.column.name ++ " " ++ plan.storage.sqlName)
      (Reading.columnTokens plan.declared) :=
  (Writes.name free).blank (writes_sqlName plan.storage)

/-- The columns of a definition side by side. -/
theorem writes_clauses {schema : Schema} {plans : List ColumnPlan}
    (free : (schema.tableOf plans).NulFree) :
    Writes (", ".intercalate (definitionClauses schema.identity plans))
      (Reading.bodyTokens schema.identity (schema.tableOf plans).columns) := by
  let clauses : List (String × List Token) :=
    (quoteName schema.identity ++ " INTEGER PRIMARY KEY AUTOINCREMENT",
        nameToken schema.identity :: ["INTEGER", "PRIMARY", "KEY", "AUTOINCREMENT"].map .word) ::
      (plans.filter ColumnPlan.inTable).map fun plan =>
        (quoteName plan.column.name ++ " " ++ plan.storage.sqlName,
          Reading.columnTokens plan.declared)
  have each : ∀ clause ∈ clauses, Writes clause.1 clause.2 := by
    intro clause member
    rcases List.mem_cons.mp member with rfl | among
    · exact writes_identity (free schema.identity (.tail _ (.head _)))
    · obtain ⟨plan, kept, rfl⟩ := List.mem_map.mp among
      have column : plan.column.name ∈ (schema.tableOf plans).columns.map Prod.fst :=
        List.mem_map_of_mem (f := Prod.fst) (List.mem_map_of_mem (f := ColumnPlan.declared) kept)
      exact writes_column (free plan.column.name (.tail _ (.tail _ column)))
  have written := Writes.commas each (by simp [clauses])
  simpa [clauses, definitionClauses, Reading.bodyTokens, tableOf, Function.comp_def] using written

/-- A definition is the words and signs that it is put together from, and a semicolon. -/
theorem definition_eq (schema : Schema) (plans : List ColumnPlan) :
    schema.definition plans =
      "CREATE" ++ " " ++ "TABLE" ++ " " ++ quoteName schema.table ++ " " ++
        ("(" ++ ", ".intercalate (definitionClauses schema.identity plans) ++ ")") ++ ";" := by
  have front : "CREATE TABLE " = "CREATE" ++ " " ++ "TABLE" ++ " " := by decide
  have opening : " (" = " " ++ "(" := by decide
  have closing : ");" = ")" ++ ";" := by decide
  show "CREATE TABLE " ++ quoteName schema.table ++ " (" ++
    ", ".intercalate (definitionClauses schema.identity plans) ++ ");" = _
  rw [front, opening, closing]
  ac_rfl

/-- A definition is one statement, which creates its table, whatever characters its names have. -/
theorem script_definition {schema : Schema} {plans : List ColumnPlan}
    (free : (schema.tableOf plans).NulFree) :
    script (schema.definition plans) =
      [some (.createTable (quoteName schema.table) (schema.tableOf plans))] := by
  have front := (Writes.word "CREATE" (by decide)).blank (.word "TABLE" (by decide))
  have written := (front.blank (.name (free schema.table List.mem_cons_self))).blank
    (writes_clauses free).parens
  rw [definition_eq]
  refine written.script_closed ?_
  simpa [Reading.definitionTokens, tableOf] using
    Reading.readStatement_definition (schema.tableOf plans)

/-! ## Plans -/

theorem ofColumn_eq_ok_iff {column : Column} {plan : ColumnPlan} :
    ColumnPlan.ofColumn column = .ok plan ↔
      plan.column = column ∧ column.declaredType.resolve? = some (plan.storage, plan.reader) := by
  obtain ⟨planned, storage, reader⟩ := plan
  unfold ColumnPlan.ofColumn
  cases column.declaredType.resolve? with
  | none => simp
  | some resolved => simp [Prod.ext_iff, eq_comm]

/-- Each column has its plan, in order. -/
theorem plans_eq_ok_iff {schema : Schema} {plans : List ColumnPlan} :
    schema.plans = .ok plans ↔
      plans.map ColumnPlan.column = schema.columns ∧
        ∀ plan ∈ plans,
          plan.column.declaredType.resolve? = some (plan.storage, plan.reader) := by
  unfold Schema.plans
  rw [mapM_eq_ok_iff]
  simp only [ofColumn_eq_ok_iff]
  generalize schema.columns = columns
  induction plans generalizing columns with
  | nil => simp [eq_comm]
  | cons plan rest ih =>
    rw [List.forall₂_cons_right_iff]
    constructor
    · rintro ⟨column, others, ⟨rfl, resolved⟩, behind, rfl⟩
      obtain ⟨rfl, all⟩ := (ih others).mp behind
      simpa using ⟨resolved, all⟩
    · rintro ⟨rfl, all⟩
      refine ⟨plan.column, rest.map ColumnPlan.column, ⟨rfl, all plan (by simp)⟩, ?_, rfl⟩
      exact (ih _).mpr ⟨rfl, fun other member => all other (List.mem_cons_of_mem plan member)⟩

theorem compile_eq_ok_iff {schema : Schema} {compiled : Compiled} :
    schema.compile = .ok compiled ↔
      schema.check = .ok () ∧ schema.plans = .ok compiled.plans ∧
        compiled.schema = schema ∧
          compiled.createStatement = schema.definition compiled.plans := by
  unfold Schema.compile
  rw [bind_eq_ok_iff]
  constructor
  · rintro ⟨⟨⟩, checked, rest⟩
    obtain ⟨plans, planned, made⟩ := bind_eq_ok_iff.mp rest
    cases made
    exact ⟨checked, planned, rfl, rfl⟩
  · rintro ⟨checked, planned, rfl, written⟩
    refine ⟨(), checked, bind_eq_ok_iff.mpr ⟨compiled.plans, planned, ?_⟩⟩
    rw [← written]
    rfl

end Schema

namespace Compiled

variable {schema : Schema} {compiled : Compiled}

/-- A table is defined with the columns that its schema keeps there, each of its own class. -/
theorem map_declared_inTable (compiles : schema.compile = .ok compiled) :
    (compiled.inTable.map ColumnPlan.declared).map (fun declared =>
        (declared.1, some declared.2)) =
      (schema.columns.filter fun column => column.kind ≠ .oneToManyParentField).map fun column =>
        (column.name, column.declaredType.resolve?.map Prod.fst) := by
  obtain ⟨_, planned, rfl, _⟩ := Schema.compile_eq_ok_iff.mp compiles
  obtain ⟨columns, resolved⟩ := Schema.plans_eq_ok_iff.mp planned
  rw [← columns, List.filter_map, List.map_map, List.map_map]
  have same : compiled.inTable = compiled.plans.filter
      ((fun column => decide (column.kind ≠ .oneToManyParentField)) ∘ ColumnPlan.column) := by
    refine List.filter_congr fun plan _ => ?_
    simp [ColumnPlan.inTable, bne, beq_eq_decide]
  rw [← same]
  refine List.map_congr_left fun plan member => ?_
  simp [ColumnPlan.declared, resolved plan (List.mem_of_mem_filter member)]

/-- The columns that are written and read are those that are no relation. -/
theorem map_column_mapped (compiles : schema.compile = .ok compiled) :
    compiled.mapped.map ColumnPlan.column =
      schema.columns.filter fun column => !column.kind.isRelation := by
  obtain ⟨columns, -⟩ := Schema.plans_eq_ok_iff.mp (Schema.compile_eq_ok_iff.mp compiles).2.1
  rw [← columns, List.filter_map]
  rfl

/-- No column is written or read that a query does not select. -/
theorem mem_selectedColumns_of_mapped {plan : ColumnPlan} (member : plan ∈ compiled.mapped) :
    plan.column.name ∈ compiled.selectedColumns := by
  obtain ⟨among, mapped⟩ := List.mem_filter.mp member
  refine List.mem_cons_of_mem _ (List.mem_map.mpr ⟨plan, ?_, rfl⟩)
  exact List.mem_filter.mpr ⟨among, ColumnPlan.inTable_of_isMapped mapped⟩

end Compiled

/-- The definition of a compiled schema is one statement and defines its table, as long as no name in
it has the character at which SQL text ends: the identity, then each column that is kept in the
table, in order and of its own class. A query selects these columns, and no other column is written
or read. -/
theorem script_createStatement {schema : Schema} {compiled : Compiled}
    (compiles : schema.compile = .ok compiled)
    (free : (schema.tableOf compiled.plans).NulFree) :
    ∃ columns : List (String × Storage),
      columns.map (fun declared => (declared.1, some declared.2)) =
          (schema.columns.filter fun column => column.kind ≠ .oneToManyParentField).map
            (fun column => (column.name, column.declaredType.resolve?.map Prod.fst)) ∧
        script compiled.createStatement =
          [some (.createTable (quoteName schema.table)
            ⟨schema.table, schema.identity, columns⟩)] ∧
        compiled.selectedColumns = schema.identity :: columns.map Prod.fst ∧
        (∀ write ∈ (Adapter.Code.ofCompiled compiled).writes,
          write.column ∈ compiled.selectedColumns) ∧
        (Adapter.Code.ofCompiled compiled).identity ∈ compiled.selectedColumns ∧
        ∀ read ∈ (Adapter.Code.ofCompiled compiled).reads,
          read.column ∈ compiled.selectedColumns := by
  obtain ⟨_, _, same, written⟩ := Schema.compile_eq_ok_iff.mp compiles
  refine ⟨compiled.inTable.map ColumnPlan.declared, Compiled.map_declared_inTable compiles,
    ?_, ?_, ?_, ?_, ?_⟩
  · rw [written]
    exact Schema.script_definition free
  · simp [Compiled.selectedColumns, same, ColumnPlan.declared, Function.comp_def]
  · intro write member
    obtain ⟨plan, among, rfl⟩ := List.mem_map.mp member
    exact Compiled.mem_selectedColumns_of_mapped among
  · simp [Adapter.Code.ofCompiled, Compiled.selectedColumns]
  · intro read member
    obtain ⟨plan, among, rfl⟩ := List.mem_map.mp member
    exact Compiled.mem_selectedColumns_of_mapped among

/-- A schema with names that need quotes and a column that is kept elsewhere. -/
def Schema.awkward : Schema :=
  ⟨"shop.order", "id",
    [.ofField "group" .text, .ofField "lines" (.oneToMany "shop.line"),
      .ofField "a\"b); --" .bytes, .ofField "" (.oneToOne "shop.customer")], none⟩

/-- Its definition is one statement, with three columns in the table. -/
theorem script_createStatement_awkward :
    ∃ compiled, Schema.awkward.compile = .ok compiled ∧
      ∃ columns : List (String × Storage),
        columns.map (fun declared => (declared.1, some declared.2)) =
            [("group", some .text), ("a\"b); --", some .blob), ("", some .integer)] ∧
          script compiled.createStatement =
            [some (.createTable "shop_order" ⟨"shop_order", "id", columns⟩)] := by
  let plans : List ColumnPlan :=
    [⟨.ofField "group" .text, .text, .text⟩,
      ⟨.ofField "lines" (.oneToMany "shop.line"), .integer, .integer⟩,
      ⟨.ofField "a\"b); --" .bytes, .blob, .bytes⟩,
      ⟨.ofField "" (.oneToOne "shop.customer"), .integer, .integer⟩]
  let compiled : Compiled := ⟨.awkward, Schema.awkward.definition plans, plans⟩
  have compiles : Schema.awkward.compile = .ok compiled :=
    Schema.compile_eq_ok_iff.mpr ⟨by decide, by decide, rfl, rfl⟩
  obtain ⟨columns, same, read, _⟩ := script_createStatement compiles (by decide)
  exact ⟨compiled, compiles, columns, same, read⟩

end EntityTables
