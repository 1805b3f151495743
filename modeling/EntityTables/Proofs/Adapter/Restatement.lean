/-
# EntityTables.Proofs.Adapter.Restatement — the printed schema is the schema it was printed from

The adapter's source states the schema by other steps than those it was built from: the marker of a
child is left out and added again, a field is mentioned only if it is named differently, and kinds
follow from types. Evaluated as source text, these steps build the same schema.

* `Column.Declared` — a column as a declaration makes it.
* `evaluate_render` — the block of the schema in the source evaluates to the schema.
-/
import EntityTables.Proofs.Adapter.Evaluation
import EntityTables.Proofs.Schema.Ordered

namespace EntityTables

set_option autoImplicit false

/-- A column as a declaration makes it: for a field of its own name at first, then perhaps for
another field, and perhaps allowed to be empty, in any order and any number of times. -/
inductive Column.Declared : Column → Prop where
  | ofField (name : String) (declared : DeclaredType) : Declared (.ofField name declared)
  | withField {column : Column} (made : Declared column) (field : String) :
    Declared (column.withField field)
  | makeNullable {column : Column} (made : Declared column) : Declared column.makeNullable

theorem Column.Declared.isNormal {column : Column} (made : column.Declared) : column.IsNormal := by
  induction made with
  | ofField name declared => exact ⟨isPlain_ofField name declared, nofun⟩
  | withField made field ih =>
    refine ⟨ih.1.withField field, ?_⟩
    unfold Column.withField
    simp only
    split
    · exact nofun
    · next apart =>
      intro same
      exact apart (Option.some.inj same)
  | makeNullable made ih => exact ⟨ih.1.makeNullable, ih.2⟩

/-- The source of a compiled schema's adapter has a block that evaluates to the schema, where the
paths of the type and of its parent are those that the schema was built with. -/
theorem Adapter.evaluate_render {target : String} {steps : List Schema.Step} {schema : Schema}
    {compiled : Compiled} (built : Schema.build target steps = .ok schema)
    (declared : ∀ column, .column column ∈ steps → column.Declared)
    (compiles : schema.compile = .ok compiled) :
    ∃ front back,
      render compiled = front ++ (Code.ofCompiled compiled).schemaText ++ back ∧
        evaluate (typePaths target schema.parent? id) (Code.ofCompiled compiled).schemaText =
          some (.ok schema) := by
  obtain ⟨front, back, parts⟩ := (Code.ofCompiled compiled).source_eq_schemaText
  obtain ⟨-, -, same, -⟩ := Schema.compile_eq_ok_iff.mp compiles
  have parent : (Code.ofCompiled compiled).parent? = schema.parent? :=
    congrArg Schema.parent? same
  have again := Schema.build_steps_ofCompiled built
    (fun column member => (declared column member).isNormal) compiles
  refine ⟨front, back, parts, ?_⟩
  rw [← parent, Code.evaluate_schemaText, again]

/-- The steps of a schema with names that a literal cannot show as they are. -/
def Schema.ornateSteps : List Schema.Step :=
  [.column ((Column.ofField "say \"\\\"" (.object "Vec<\"x\">")).withField "line\n\x07"),
    .childOf "shop::Order",
    .column (Column.ofField "cafe\u0301" .text).makeNullable]

/-- The names come out of the source as they went into it. -/
theorem Adapter.evaluate_render_ornate :
    ∃ compiled front back, (Schema.draft "shop::Line" Schema.ornateSteps).compile = .ok compiled ∧
      render compiled = front ++ (Code.ofCompiled compiled).schemaText ++ back ∧
        evaluate (typePaths "shop::Line" (some "shop::Order") id)
          (Code.ofCompiled compiled).schemaText =
            some (.ok (Schema.draft "shop::Line" Schema.ornateSteps)) := by
  let schema := Schema.draft "shop::Line" Schema.ornateSteps
  have built : Schema.build "shop::Line" Schema.ornateSteps = .ok schema := by rfl
  have declared : ∀ column, .column column ∈ Schema.ornateSteps → column.Declared := by
    intro column member
    simp only [Schema.ornateSteps, List.mem_cons, Schema.Step.column.injEq, reduceCtorEq,
      List.not_mem_nil, or_false, false_or] at member
    rcases member with rfl | rfl
    · exact (Column.Declared.ofField _ _).withField _
    · exact (Column.Declared.ofField _ _).makeNullable
  have planned : ∃ plans, schema.plans = .ok plans := by
    rw [Schema.exists_plans_iff]
    decide
  obtain ⟨plans, planned⟩ := planned
  have compiles : schema.compile = .ok ⟨schema, schema.definition plans, plans⟩ :=
    Schema.compile_eq_ok_iff.mpr ⟨by decide, planned, rfl, rfl⟩
  obtain ⟨front, back, parts, value⟩ := Adapter.evaluate_render built declared compiles
  exact ⟨_, front, back, compiles, parts, value⟩

end EntityTables
