/-
# EntityTables.Proofs.Schema.Building — which steps build a schema, and what refuses the others

The last identity and the last parent that are named count, and columns stand in the order of their
steps, with the reference to the parent behind them. The rules speak of the names that come out of
this, whatever the order and number of the steps.

* `lastIdentity`, `lastParent?`, `columnNames` — what some steps name; `draft_eq` — what they
  describe.
* `Clashes` — a name that may not stand behind others; `checkColumns_eq_error_iff` — the column
  rules stop at the first one.
* `Refused` — the first fault of a schema; `build_exact` — each list of steps builds a schema or has
  a first fault.
-/
import EntityTables.Proofs.Schema.Ordered
import Mathlib.Data.List.Induction

namespace EntityTables.Schema

set_option autoImplicit false

/-! ## What steps name -/

/-- The identity that a step names. -/
def Step.identity? : Step → Option String
  | .identity name => some name
  | _ => none

/-- The parent that a step names. -/
def Step.parent? : Step → Option String
  | .childOf parent => some parent
  | _ => none

/-- The identity that is named last, or the usual one. -/
def lastIdentity (steps : List Step) : String :=
  (steps.reverse.findSome? Step.identity?).getD "id"

/-- The parent that is named last. -/
def lastParent? (steps : List Step) : Option String := steps.reverse.findSome? Step.parent?

/-- The names of the columns that are added, in order, and that of the reference to the parent. -/
def columnNames (steps : List Step) : List String :=
  (steps.filterMap Step.added?).map Column.name ++
    ((lastParent? steps).map fun parent => tableName parent ++ "_id").toList

theorem identity_foldl_apply (steps : List Step) (start : Schema) :
    (steps.foldl Step.apply start).identity =
      (steps.reverse.findSome? Step.identity?).getD start.identity := by
  induction steps using List.reverseRecOn with
  | nil => rfl
  | append_singleton steps step ih =>
    rw [List.foldl_concat, List.reverse_concat, List.findSome?_cons]
    cases step with
    | identity name => rfl
    | column added => exact ih
    | childOf parent => exact ih

theorem parent?_foldl_apply (steps : List Step) (start : Schema) :
    (steps.foldl Step.apply start).parent? = (lastParent? steps).or start.parent? := by
  unfold lastParent?
  induction steps using List.reverseRecOn with
  | nil => rfl
  | append_singleton steps step ih =>
    rw [List.foldl_concat, List.reverse_concat, List.findSome?_cons]
    cases step with
    | identity name => exact ih
    | column added => exact ih
    | childOf parent => rfl

/-- What some steps describe. -/
theorem draft_eq (target : String) (steps : List Step) :
    draft target steps =
      ⟨target, lastIdentity steps,
        steps.filterMap Step.added? ++ ((lastParent? steps).map parentMarker).toList,
        lastParent? steps⟩ := by
  have folded : steps.foldl Step.apply ⟨target, "id", [], none⟩ =
      ⟨target, lastIdentity steps, steps.filterMap Step.added?, lastParent? steps⟩ := by
    have parts (schema : Schema) :
        schema = ⟨schema.target, schema.identity, schema.columns, schema.parent?⟩ := rfl
    rw [parts (steps.foldl _ _), target_foldl_apply, identity_foldl_apply, columns_foldl_apply,
      parent?_foldl_apply, Option.or_none, List.nil_append, lastIdentity]
  rw [draft, folded]
  cases lastParent? steps with
  | none => simp
  | some parent => simp

theorem map_name_columns (steps : List Step) :
    (steps.filterMap Step.added? ++ ((lastParent? steps).map parentMarker).toList).map Column.name =
      columnNames steps := by
  rw [List.map_append, columnNames]
  cases lastParent? steps with
  | none => rfl
  | some parent => rfl

/-! ## The first fault -/

/-- A name that may not stand behind some others: it is that of the identity, or one of them. -/
inductive Clashes (target identity : String) (before : List String) : String → SchemaError → Prop
  | identity : Clashes target identity before identity (.identityCollision target identity)
  | repeated {name : String} (other : name ≠ identity) (again : name ∈ before) :
      Clashes target identity before name (.duplicateColumn target name)

/-- The first fault of a schema: its target, its identity, or the first column whose name clashes
with the identity or with a column before it. -/
inductive Refused (target identity : String) (names : List String) : SchemaError → Prop
  | target (blank : Text.allBlank target = true) : Refused target identity names .emptyTarget
  | identity (named : Text.allBlank target = false) (blank : Text.allBlank identity = true) :
      Refused target identity names (.emptyIdentity target)
  | column (named : Text.allBlank target = false) (known : Text.allBlank identity = false)
      {before after : List String} {name : String} {fault : SchemaError}
      (split : names = before ++ name :: after) (distinct : (identity :: before).Nodup)
      (clashes : Clashes target identity before name fault) : Refused target identity names fault

section Columns

variable {target identity name : String} {seen before rest names : List String}
  {fault : SchemaError}

/-- Columns are looked at behind those before them. -/
theorem checkColumns_append :
    checkColumns target identity seen (before ++ rest) =
      (checkColumns target identity seen before >>= fun _ =>
        checkColumns target identity (before.reverse ++ seen) rest) := by
  induction before generalizing seen with
  | nil => rfl
  | cons name others ih =>
    rw [List.cons_append, checkColumns, checkColumns, List.reverse_cons, List.append_assoc]
    by_cases same : name = identity
    · rw [if_pos same, if_pos same]
      rfl
    · rw [if_neg same, if_neg same]
      by_cases repeated : name ∈ seen
      · rw [if_pos repeated, if_pos repeated]
        rfl
      · rw [if_neg repeated, if_neg repeated, ih, List.singleton_append]

/-- What one more column does. -/
theorem checkColumns_cons_eq_error (clashes : Clashes target identity seen name fault) :
    checkColumns target identity seen (name :: rest) = .error fault := by
  cases clashes with
  | identity => rw [checkColumns, if_pos rfl]
  | repeated other again => rw [checkColumns, if_neg other, if_pos again]

theorem clashes_of_checkColumns
    (refused : checkColumns target identity seen [name] = .error fault) :
    Clashes target identity seen name fault := by
  rw [checkColumns] at refused
  by_cases same : name = identity
  · rw [if_pos same] at refused
    cases refused
    rw [same]
    exact .identity
  · rw [if_neg same] at refused
    by_cases again : name ∈ seen
    · rw [if_pos again] at refused
      cases refused
      exact .repeated same again
    · rw [if_neg again] at refused
      cases refused

theorem Clashes.of_perm (clashes : Clashes target identity before name fault)
    (same : before.Perm seen) : Clashes target identity seen name fault := by
  cases clashes with
  | identity => exact .identity
  | repeated other again => exact .repeated other (same.mem_iff.mp again)

/-- The column rules hold for names that are all different and other than that of the identity. -/
theorem checkColumns_nil_eq_ok_iff :
    checkColumns target identity [] names = .ok () ↔ (identity :: names).Nodup := by
  simp [checkColumns_eq_ok_iff]

/-- The column rules stop at the first name that clashes with those before it. -/
theorem checkColumns_eq_error_iff :
    checkColumns target identity [] names = .error fault ↔
      ∃ before name after, names = before ++ name :: after ∧ (identity :: before).Nodup ∧
        Clashes target identity before name fault := by
  constructor
  · intro refused
    induction names using List.reverseRecOn with
    | nil => cases refused
    | append_singleton names last ih =>
      rw [checkColumns_append] at refused
      cases earlier : checkColumns target identity [] names with
      | error first =>
        rw [earlier] at refused
        cases refused
        obtain ⟨before, name, after, rfl, distinct, clashes⟩ := ih earlier
        exact ⟨before, name, after ++ [last], List.append_assoc _ _ _, distinct, clashes⟩
      | ok done =>
        rw [earlier] at refused
        have clashes := clashes_of_checkColumns refused
        rw [List.append_nil] at clashes
        exact ⟨names, last, [], rfl, checkColumns_nil_eq_ok_iff.mp earlier,
          clashes.of_perm (List.reverse_perm names)⟩
  · rintro ⟨before, name, after, rfl, distinct, clashes⟩
    rw [checkColumns_append, checkColumns_nil_eq_ok_iff.mpr distinct, List.append_nil]
    exact checkColumns_cons_eq_error (clashes.of_perm (List.reverse_perm before).symm)

end Columns

/-- A schema is refused for its first fault. -/
theorem check_eq_error_iff {schema : Schema} {fault : SchemaError} :
    schema.check = .error fault ↔
      Refused schema.target schema.identity (schema.columns.map Column.name) fault := by
  unfold check
  cases blankTarget : Text.allBlank schema.target with
  | true =>
    rw [if_pos rfl]
    constructor
    · rintro ⟨⟩
      exact .target blankTarget
    · rintro (⟨-⟩ | ⟨named, -⟩ | ⟨named, -, -, -, -⟩)
      · rfl
      · exact Bool.noConfusion (blankTarget.symm.trans named)
      · exact Bool.noConfusion (blankTarget.symm.trans named)
  | false =>
    rw [if_neg Bool.false_ne_true]
    cases blankIdentity : Text.allBlank schema.identity with
    | true =>
      rw [if_pos rfl]
      constructor
      · rintro ⟨⟩
        exact .identity blankTarget blankIdentity
      · rintro (⟨blank⟩ | ⟨-, -⟩ | ⟨-, known, -, -, -⟩)
        · exact Bool.noConfusion (blankTarget.symm.trans blank)
        · rfl
        · exact Bool.noConfusion (blankIdentity.symm.trans known)
    | false =>
      rw [if_neg Bool.false_ne_true, checkColumns_eq_error_iff]
      constructor
      · rintro ⟨before, name, after, split, distinct, clashes⟩
        exact .column blankTarget blankIdentity split distinct clashes
      · rintro (⟨blank⟩ | ⟨-, blank⟩ | ⟨-, -, split, distinct, clashes⟩)
        · exact Bool.noConfusion (blankTarget.symm.trans blank)
        · exact Bool.noConfusion (blankIdentity.symm.trans blank)
        · exact ⟨_, _, _, split, distinct, clashes⟩

theorem build_eq_error_iff {target : String} {steps : List Step} {fault : SchemaError} :
    build target steps = .error fault ↔ (draft target steps).check = .error fault := by
  unfold build
  simp only
  cases (draft target steps).check with
  | ok done => simp
  | error first => simp

/-! ## Every list of steps -/

/-- Steps build a schema exactly if neither the target nor the last identity is blank and no name is
there twice, and then it has the columns of the steps with the reference to the parent behind them;
otherwise they have a first fault, and are refused for it. -/
theorem build_exact (target : String) (steps : List Step) :
    (∀ schema, build target steps = .ok schema ↔
      Text.allBlank target = false ∧ Text.allBlank (lastIdentity steps) = false ∧
        (lastIdentity steps :: columnNames steps).Nodup ∧
          schema = ⟨target, lastIdentity steps,
            steps.filterMap Step.added? ++ ((lastParent? steps).map parentMarker).toList,
            lastParent? steps⟩) ∧
    (∀ schema, build target steps = .ok schema →
      schema.columns.map Column.name = columnNames steps ∧
        schema.identity ∉ schema.columns.map Column.name) ∧
    ∀ fault, build target steps = .error fault ↔
      Refused target (lastIdentity steps) (columnNames steps) fault := by
  have builds (schema : Schema) : build target steps = .ok schema ↔
      Text.allBlank target = false ∧ Text.allBlank (lastIdentity steps) = false ∧
        (lastIdentity steps :: columnNames steps).Nodup ∧
          schema = ⟨target, lastIdentity steps,
            steps.filterMap Step.added? ++ ((lastParent? steps).map parentMarker).toList,
            lastParent? steps⟩ := by
    rw [build_eq_ok_iff, draft_eq]
    constructor
    · rintro ⟨rfl, checked⟩
      obtain ⟨named, known, distinct⟩ := check_eq_ok_iff.mp checked
      rw [map_name_columns] at distinct
      exact ⟨named, known, distinct, rfl⟩
    · rintro ⟨named, known, distinct, rfl⟩
      rw [← map_name_columns] at distinct
      exact ⟨rfl, check_eq_ok_iff.mpr ⟨named, known, distinct⟩⟩
  refine ⟨builds, ?_, ?_⟩
  · intro schema built
    obtain ⟨-, -, distinct, rfl⟩ := (builds schema).mp built
    rw [map_name_columns]
    exact ⟨rfl, (List.nodup_cons.mp distinct).1⟩
  · intro fault
    rw [build_eq_error_iff, draft_eq, check_eq_error_iff, map_name_columns]

end EntityTables.Schema
