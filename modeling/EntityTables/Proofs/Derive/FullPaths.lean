/-
# EntityTables.Proofs.Derive.FullPaths — which derived adapters compile where they run

A declaration is checked under the names it has itself: the type without a path, and the parent as
written. Its adapter states the schema again under full paths. All columns are then as they were,
but the reference to the parent has another name, and the first check has not looked at that one.

* `Compiled.declaredNames` — the names that a declaration gives to its columns.
* `Derive.compiles_fullPath_iff` — the adapter of an accepted declaration compiles exactly if the
  reference to its parent, named after the full path, has none of these names.
* `Derive.fullPath_clash` — an accepted declaration whose adapter never compiles.
-/
import EntityTables.Proofs.Schema.Ordered

namespace EntityTables

set_option autoImplicit false

open Source

/-- The names that a declaration gives to its identity and to its columns. -/
def Compiled.declaredNames (compiled : Compiled) : List String :=
  compiled.schema.identity ::
    (compiled.schema.columns.filter Column.hasField).map Column.name

/-- A path that names a module is not blank. -/
theorem Text.allBlank_path (module name : String) :
    Text.allBlank (module ++ "::" ++ name) = false := by
  unfold Text.allBlank
  rw [String.toList_append, String.toList_append, List.all_append, List.all_append]
  have colons : "::".toList.all Text.isBlank = false := by decide
  rw [colons]
  simp

namespace Derive

variable {item : Item} {derived : Compiled}

/-- The schema of an accepted declaration: its steps are in the usual order, and its columns, the
reference to a parent apart, are those of its fields. -/
theorem ordered_of_derive (made : derive item = .ok derived) :
    ∃ columns, (∀ column ∈ columns, column.IsNormal) ∧
      derived.schema.columns.filter Column.hasField = columns ∧
        Schema.build item.name (Schema.ordered derived.schema.identity columns
          derived.schema.parent?) >>= Schema.compile = .ok derived := by
  obtain ⟨fields, mapped, identity, parent?, schema, -, -, built, compiles⟩ := derive_eq_ok made
  obtain ⟨-, -, same, -⟩ := Schema.compile_eq_ok_iff.mp compiles
  subst same
  have normal : ∀ column ∈ mapped.map Candidate.column, column.IsNormal := by
    intro column member
    obtain ⟨candidate, -, rfl⟩ := List.mem_map.mp member
    exact candidate.isNormal_column
  have usual : schemaSteps identity mapped parent? =
      Schema.ordered identity (mapped.map Candidate.column) parent? := by
    unfold schemaSteps Schema.ordered
    rw [List.map_map]
    rfl
  rw [usual] at built
  have drafted := Schema.draft_of_build built
  rw [Schema.draft_ordered] at drafted
  have named : derived.schema.identity = identity := by rw [← drafted]
  have parent : derived.schema.parent? = parent? := by rw [← drafted]
  refine ⟨mapped.map Candidate.column, normal, ?_, ?_⟩
  · rw [← drafted]
    exact Schema.filter_hasField normal
  · rw [named, parent]
    exact bind_eq_ok_iff.mpr ⟨_, built, compiles⟩

/-- The adapter of an accepted declaration, used for the type under its full path and with the full
path of its parent, compiles exactly if the reference to the parent has then a name that neither
the identity nor a column of the declaration has. -/
theorem compiles_fullPath_iff (made : derive item = .ok derived) (module : String)
    (parentPath? : Option String) :
    (∃ compiled, Mapping.compile
        ⟨module ++ "::" ++ item.name, .ofCompiled derived, parentPath?⟩ = .ok compiled) ↔
      ∀ written ∈ derived.schema.parent?,
        parentColumnName (parentPath?.getD written) ∉ derived.declaredNames := by
  obtain ⟨columns, normal, fields, whole⟩ := ordered_of_derive made
  obtain ⟨-, identity, formed, distinct, -⟩ := Schema.compiles_ordered_iff.mp ⟨derived, whole⟩
  show (∃ compiled, Schema.build (module ++ "::" ++ item.name)
    ((Adapter.Code.ofCompiled derived).steps fun named => parentPath?.getD named) >>=
      Schema.compile = .ok compiled) ↔ _
  rw [Adapter.Code.steps_ofCompiled fields normal, Schema.compiles_ordered_iff,
    Compiled.declaredNames, fields]
  constructor
  · rintro ⟨-, -, -, -, apart⟩ written parent
    exact apart _ (Option.mem_map_of_mem _ parent)
  · intro apart
    refine ⟨Text.allBlank_path module item.name, identity, formed, distinct, ?_⟩
    intro parent named
    obtain ⟨written, among, rfl⟩ := Option.mem_map.mp named
    exact apart written among

/-- The declaration of a child of `Parent` with one column besides its identity. -/
def lineItem (column : String) : Item :=
  let field (name : String) : Field :=
    ⟨.origin, [], name, .origin, .path none false [.mk "i64" .none], .origin⟩
  { attributes := [⟨some "rowforge", .list [.leaf .origin (.word "child_of"),
      .leaf .origin (.punct '=' false), .leaf .origin (.word "Parent")]⟩]
    name := "Line"
    namePosition := .origin
    parameters? := none
    shape := .named [field "id", field column] }

/-- The schema of the declaration. -/
def lineCompiled (name : String) : Compiled :=
  let column := (Column.ofField name (.integer .int64)).withField name
  let schema := Schema.draft "Line" [.identity "id", .column column, .childOf "Parent"]
  let plans := schema.columns.map fun column => ColumnPlan.mk column .integer .integer
  ⟨schema, schema.definition plans, plans⟩

/-- A column that is named after the parent in another module does no harm. -/
theorem compiles_fullPath_line :
    derive (lineItem "lib_Parent_id") = .ok (lineCompiled "lib_Parent_id") ∧
      ∃ compiled, Mapping.compile ⟨"shop::Line", .ofCompiled (lineCompiled "lib_Parent_id"),
        some "shop::Parent"⟩ = .ok compiled := by
  have made : derive (lineItem "lib_Parent_id") = .ok (lineCompiled "lib_Parent_id") := by rfl
  refine ⟨made, (compiles_fullPath_iff made "shop" (some "shop::Parent")).mpr ?_⟩
  decide

/-- The declaration is accepted, but under full paths its column has the name of the reference to the
parent. -/
theorem fullPath_clash :
    derive (lineItem "lib_Parent_id") = .ok (lineCompiled "lib_Parent_id") ∧
      Mapping.compile ⟨"lib::Line", .ofCompiled (lineCompiled "lib_Parent_id"),
        some "lib::Parent"⟩ = .error (.duplicateColumn "lib::Line" "lib_Parent_id") := by
  constructor
  · rfl
  · decide

end Derive

end EntityTables
