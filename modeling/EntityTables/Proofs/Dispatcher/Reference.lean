/-
# EntityTables.Proofs.Dispatcher.Reference — the column by which records refer to a parent

The table of a child entity has one column that no field of a record has. Only the addition of a
child fills it in, a change of a record leaves it as it is, and a search for the children of a
parent asks for it.

* `Compiled.RefersBy` — the column of a child entity; `refersBy_of_markerLast`.
* `RowValues.withParent` — the values of a record that belongs to a parent.
* `overwrite_withParent`, `meets_reference` — a change and a search.
-/
import EntityTables.Proofs.Dispatcher.Operations

namespace EntityTables

set_option autoImplicit false

open Sql Database

variable {objects : Objects} {entity : EntityType objects} {compiled : Compiled}

/-! ## The column -/

/-- Records refer to their parent by a column that no field is written to. -/
structure Compiled.RefersBy (compiled : Compiled) (reference : String) : Prop where
  named : compiled.schema.parentReference?.map Column.name = some reference
  declared : (reference, Storage.integer) ∈ (compiled.schema.tableOf compiled.plans).columns
  apart : ∀ plan ∈ compiled.mapped, plan.column.name ≠ reference

/-- The records of a child entity refer to their parent by the column that is named after it. -/
theorem EntityType.IsFor.refersBy_of_markerLast (made : entity.IsFor compiled.schema compiled)
    (marked : compiled.schema.MarkerLast) {parent : String}
    (child : compiled.schema.parent? = some parent) :
    compiled.RefersBy (parentColumnName parent) := by
  obtain ⟨columns, all, fielded⟩ := marked
  rw [child] at all
  have last : Schema.parentMarker parent ∈ compiled.schema.columns := by
    rw [all]
    exact List.mem_append_right _ (List.mem_singleton.mpr rfl)
  obtain ⟨planned, resolved⟩ :=
    Schema.plans_eq_ok_iff.mp (Schema.compile_eq_ok_iff.mp made.compiles).2.1
  obtain ⟨marker, among, same⟩ := List.mem_map.mp (planned.symm ▸ last)
  refine ⟨?_, ?_, ?_⟩
  · have before : columns.find? (fun column => column.kind == .oneToManyChildMarker) = none := by
      rw [List.find?_eq_none]
      intro column member isMarker
      have other := fielded column member
      unfold Column.hasField at other
      rw [beq_iff_eq.mp isMarker] at other
      cases other
    unfold Schema.parentReference?
    rw [all, List.find?_append, before]
    rfl
  · have storage := resolved marker among
    rw [same] at storage
    have held : marker.storage = .integer :=
      (congrArg Prod.fst (Option.some.inj storage)).symm
    have kept : marker.inTable = true := by
      unfold ColumnPlan.inTable
      rw [same]
      rfl
    refine List.mem_map.mpr ⟨marker, List.mem_filter.mpr ⟨among, kept⟩, ?_⟩
    rw [ColumnPlan.declared, same, held]
    rfl
  · -- no two planned columns share a name, and the marker's is not mapped
    intro plan member name
    obtain ⟨other, mapped⟩ := List.mem_filter.mp member
    have twin : plan = marker := made.plan_unique other among (by rw [name, same]; rfl)
    rw [twin, ColumnPlan.isMapped_iff, same] at mapped
    cases mapped

/-! ## Values with a parent -/

namespace RowValues

/-- The values of a record that belongs to a parent, if it does. -/
def withParent (values : RowValues) (reference : String) : Option Int64 → RowValues
  | none => values
  | some parent => values.put reference (.integer parent)

variable {values : RowValues} {reference : String}

theorem get?_withParent (fresh : reference ∉ values.columns) (parent? : Option Int64) :
    (values.withParent reference parent?).get? reference = parent?.map Value.integer := by
  cases parent? with
  | none => exact get?_eq_none_iff.mpr fresh
  | some parent => simp [withParent]

theorem get?_withParent_of_ne {name : String} (other : name ≠ reference)
    (parent? : Option Int64) :
    (values.withParent reference parent?).get? name = values.get? name := by
  cases parent? with
  | none => rfl
  | some parent => simp [withParent, other]

end RowValues

/-- The condition that a row belongs to a parent. -/
def Database.isChildOf (definition : TableDefinition) (reference : String) (parent : Int64) :
    Condition Place Cell :=
  .compare (definition.stored reference) .equal (Cell.ofValue (.integer parent))

namespace EntityType.IsFor

variable {record other : entity.Record} {values old : RowValues} {reference : String}
  (made : entity.IsFor compiled.schema compiled) (refers : compiled.RefersBy reference)

include made refers

theorem reference_notMem_columns (encoded : entity.encode record = .ok values) :
    reference ∉ values.columns := by
  rw [made.columns_of_encode encoded]
  intro member
  obtain ⟨plan, mapped, same⟩ := List.mem_map.mp member
  exact refers.apart plan mapped same

theorem fits_withParent (encoded : entity.encode record = .ok values)
    (parent? : Option Int64) :
    (values.withParent reference parent?).Fits (compiled.schema.tableOf compiled.plans) := by
  intro name member
  by_cases same : name = reference
  · subst same
    exact List.mem_map_of_mem refers.declared
  · refine made.fits_of_encode encoded name ?_
    rw [← RowValues.isSome_get?_iff] at member ⊢
    rwa [RowValues.get?_withParent_of_ne same] at member

theorem suits_withParent (encoded : entity.encode record = .ok values)
    (distinct : (compiled.schema.tableOf compiled.plans).Distinct) (parent? : Option Int64) :
    (values.withParent reference parent?).Suits (compiled.schema.tableOf compiled.plans) := by
  intro column member value given
  by_cases same : column.1 = reference
  · have twin : column = (reference, .integer) :=
      List.inj_on_of_nodup_map distinct.names_nodup member refers.declared same
    rw [same, RowValues.get?_withParent (made.reference_notMem_columns refers encoded)] at given
    obtain ⟨parent, -, rfl⟩ := Option.map_eq_some_iff.mp given
    rw [twin]
    exact .inr rfl
  · rw [RowValues.get?_withParent_of_ne same] at given
    exact made.suits_of_encode encoded column member value given

/-- A change of a record's fields keeps the reference to its parent. -/
theorem overwrite_withParent (written : entity.encode other = .ok old)
    (encoded : entity.encode record = .ok values) (definition : TableDefinition)
    (parent? : Option Int64) :
    values.overwrite definition ((old.withParent reference parent?).cells definition) =
      (values.withParent reference parent?).cells definition := by
  refine RowValues.overwrite_cells fun name _ => ?_
  by_cases same : name = reference
  · subst same
    have fresh := made.reference_notMem_columns refers encoded
    rw [RowValues.get?_withParent fresh, RowValues.get?_eq_none_iff.mpr fresh,
      RowValues.get?_withParent (made.reference_notMem_columns refers written)]
    rfl
  · rw [RowValues.get?_withParent_of_ne same, RowValues.get?_withParent_of_ne same]
    cases given : values.get? name with
    | some value => rfl
    | none =>
      have columns : old.columns = values.columns :=
        (made.columns_of_encode written).trans (made.columns_of_encode encoded).symm
      rw [RowValues.get?_eq_none_iff, ← columns] at given
      exact (RowValues.get?_eq_none_iff.mpr given).symm

/-- A row is among the children of a parent exactly if it was written as a child of that parent. -/
theorem meets_reference (encoded : entity.encode record = .ok values)
    {definition : TableDefinition} (defined : definition = compiled.schema.tableOf compiled.plans)
    (distinct : definition.Distinct) (identity : Int64) (parent? : Option Int64) (parent : Int64) :
    StoredRow.meetsAll definition
        ⟨identity, (values.withParent reference parent?).cells definition⟩
        (some (isChildOf definition reference parent)) =
      decide (parent? = some parent) := by
  subst defined
  let definition := compiled.schema.tableOf compiled.plans
  have member : reference ∈ definition.columnNames := List.mem_map_of_mem refers.declared
  have within := List.idxOf_lt_length_iff.mpr member
  have here : definition.columns[definition.columnNames.idxOf reference]? =
      some (reference, .integer) := by
    obtain ⟨index, found⟩ := List.getElem?_of_mem refers.declared
    have place := TableDefinition.stored_of_getElem? distinct found
    simp only [TableDefinition.stored, Place.stored.injEq] at place
    rw [place]
    exact found
  have storage : definition.storage (definition.stored reference) = .integer := by
    simp [TableDefinition.storage, TableDefinition.stored, here]
  have cells := RowValues.cells_of_suits (made.suits_withParent refers encoded distinct parent?)
  have held : (values.withParent reference parent?).heldAt reference =
      (parent?.map Value.integer).getD .null := by
    rw [RowValues.heldAt, RowValues.get?_withParent (made.reference_notMem_columns refers encoded)]
    cases parent? <;> rfl
  have cell : StoredRow.cell
      ⟨identity, (values.withParent reference parent?).cells definition⟩
        (definition.stored reference) = .value ((parent?.map Value.integer).getD .null) := by
    simp only [StoredRow.cell, TableDefinition.stored]
    rw [cells, ← held, List.getD_eq_getElem?_getD, List.getElem?_map,
      List.getElem?_eq_getElem within, List.getElem_idxOf within]
    rfl
  show (definition.storage (definition.stored reference)).meets .equal (StoredRow.cell _ _) _ = _
  rw [storage, cell]
  cases parent? with
  | none => exact Storage.meets_null_left _ _ _
  | some given =>
    refine (Storage.meets_equal_integer given parent).trans ?_
    exact decide_eq_decide.mpr Option.some_inj.symm

end EntityType.IsFor

/-! ## Children -/

namespace Dispatcher

variable {table : Table} {session : Session Connection} {reference : String}

theorem parentReference_eq (refers : compiled.RefersBy reference) {found : Instance}
    (same : found.compiled = compiled) : parentReference found = .ok reference := by
  obtain ⟨column, marker, rfl⟩ := Option.map_eq_some_iff.mp refers.named
  unfold parentReference
  rw [same, marker]

/-- A child that is not refused is added as its values and the reference to its parent. -/
theorem insertChild_eq (ready : Ready entity compiled table session)
    (refers : compiled.RefersBy reference) {record : entity.Record} {values : RowValues}
    (encoded : entity.encode record = .ok values) (parent : Int64) :
    insertChild entity parent record session =
      Gateway.insertRow table.definition.name (values.withParent reference (some parent))
        session := by
  obtain ⟨found, given, -, same, named, -⟩ := ready.adapter_run
  unfold insertChild
  rw [Action.bind_run, given]
  simp only [parentReference_eq refers same, encoded, ← named]
  rfl

/-- A child that is refused is not added, and nothing changes. -/
theorem insertChild_refused (ready : Ready entity compiled table session)
    (refers : compiled.RefersBy reference) {record : entity.Record} {fault : Error}
    (refused : entity.encode record = .error fault) (parent : Int64) :
    insertChild entity parent record session = (.error fault, session) := by
  obtain ⟨found, given, -, same, -⟩ := ready.adapter_run
  unfold insertChild
  rw [Action.bind_run, given]
  simp only [parentReference_eq refers same, refused]
  rfl

/-- A search for the rows that belong to a parent. -/
theorem queryChildren_run (ready : Ready entity compiled table session)
    (refers : compiled.RefersBy reference) (parent : Int64)
    (ascending : (table.matching (some (isChildOf table.definition reference parent))).Pairwise
      fun a b => a.identity < b.identity)
    (whole : ∀ row ∈ table.matching (some (isChildOf table.definition reference parent)),
      row.cells.length = table.definition.columns.length) :
    ∃ after, queryChildren entity parent session =
        (recordsOf entity table (some (isChildOf table.definition reference parent)), after) ∧
      Moves table table session after := by
  obtain ⟨found, given, -, same, -, identified⟩ := ready.adapter_run
  have member : reference ∈ table.definition.columnNames := by
    rw [ready.defined]
    exact List.mem_map_of_mem refers.declared
  have asks : (Predicate.columnEquals reference (.integer parent)).Asks table.definition
      (some (isChildOf table.definition reference parent)) :=
    .equals (.integer parent) (ready.holds.free reference (.tail _ (.tail _ member)))
      (TableDefinition.place?_stored ready.holds.distinct member)
  obtain ⟨after, ran, moves⟩ := queryTable_run ready (some table.definition.identity) asks
    (by simp) ascending whole
  refine ⟨after, ?_, moves⟩
  unfold queryChildren
  rw [Action.bind_run, given]
  simp only [parentReference_eq refers same, identified]
  exact ran

end Dispatcher

end EntityTables
