/-
# EntityTables.Proofs.Schema.ColumnNames — names of columns that differ only in case

The structural rules compare the names of columns as texts, a database compares them whatever their
case. So an accepted schema can declare columns that are one column for the database, and then its
table is refused where it is created, by the first name that repeats an earlier one.

* `TableDefinition.distinct_iff` — columns with names of their own have places of their own.
* `Database.firstRepeated?_eq_some_iff` — which name a database objects to.
* `Schema.columns_apart_iff` — when an accepted schema gets its table; `Schema.twin_refused` — one
  that does not.
-/
import EntityTables.Proofs.Dispatcher.Operations
import EntityTables.Proofs.Schema.Ordered
import EntityTables.Proofs.Sql.Broken

namespace EntityTables

set_option autoImplicit false

open Sql Database

namespace Sql.TableDefinition

variable {definition : TableDefinition}

/-- A name means the same place in any case. -/
theorem place?_congr {a b : String} (same : sameName a b = true) :
    definition.place? a = definition.place? b := by
  have folded := sameName_iff.mp same
  unfold place? isRowName sameName
  rw [folded]

/-- All names differ, whatever their case, exactly if they differ and each means a place of its
own. -/
theorem distinct_iff : definition.Distinct ↔
    (definition.identity :: definition.columnNames).Nodup ∧
      ∀ a ∈ definition.identity :: definition.columnNames,
        ∀ b ∈ definition.identity :: definition.columnNames,
          definition.place? a = definition.place? b → a = b := by
  constructor
  · intro distinct
    refine ⟨distinct.of_map _, fun a first b second same => ?_⟩
    rcases List.mem_cons.mp first with rfl | first
    · rcases List.mem_cons.mp second with rfl | second
      · rfl
      · rw [place?_identity, place?_stored distinct second] at same
        cases same
    · rw [place?_stored distinct first] at same
      rcases List.mem_cons.mp second with rfl | second
      · rw [place?_identity] at same
        cases same
      · rw [place?_stored distinct second] at same
        exact stored_inj first (Option.some.inj same)
  · rintro ⟨nodup, apart⟩
    refine nodup.map_on fun a first b second same => ?_
    exact apart a first b second (place?_congr (sameName_iff.mpr same))

end Sql.TableDefinition

/-- Names that repeat none are passed over, and are earlier ones for the rest. -/
theorem Database.firstRepeated?_append {earlier before : List String}
    (fresh : firstRepeated? earlier before = none) (rest : List String) :
    firstRepeated? earlier (before ++ rest) = firstRepeated? (before.reverse ++ earlier) rest := by
  induction before generalizing earlier with
  | nil => rfl
  | cons name before ih =>
    rw [firstRepeated?] at fresh
    split at fresh
    · cases fresh
    · next late =>
      rw [List.cons_append, firstRepeated?, if_neg late, ih fresh, List.reverse_cons,
        List.append_assoc, List.singleton_append]

/-- A database objects to the first name that repeats an earlier one in any case. -/
theorem Database.firstRepeated?_eq_some_iff {earlier names : List String} {repeated : String} :
    firstRepeated? earlier names = some repeated ↔
      ∃ before behind, names = before ++ repeated :: behind ∧ firstRepeated? earlier before = none ∧
        ∃ other ∈ earlier ++ before, sameName repeated other = true := by
  constructor
  · intro found
    induction names generalizing earlier with
    | nil => cases found
    | cons name rest ih =>
      rw [firstRepeated?] at found
      split at found
      · next early =>
        obtain rfl := Option.some.inj found
        obtain ⟨other, member, same⟩ := List.any_eq_true.mp early
        exact ⟨[], rest, rfl, rfl, other, List.mem_append_left _ member, same⟩
      · next late =>
        obtain ⟨before, behind, rfl, fresh, other, member, same⟩ := ih found
        refine ⟨name :: before, behind, rfl, ?_, other, ?_, same⟩
        · rw [firstRepeated?, if_neg late, fresh]
        · exact List.perm_middle.symm.mem_iff.mp member
  · rintro ⟨before, behind, rfl, fresh, other, member, same⟩
    have early : (before.reverse ++ earlier).any (sameName repeated) = true :=
      List.any_eq_true.mpr ⟨other, by simpa [or_comm] using member, same⟩
    rw [firstRepeated?_append fresh, firstRepeated?, if_pos early]

/-- Names that differ, whatever their case. -/
theorem Sql.nodup_foldCase_iff {names : List String} :
    (names.map foldCase).Nodup ↔ names.Pairwise fun a b => sameName a b = false := by
  have apart {a b : String} : foldCase a ≠ foldCase b ↔ sameName a b = false := by
    rw [← Bool.not_eq_true, TableDefinition.sameName_iff]
  rw [List.Nodup, List.pairwise_map]
  exact List.Pairwise.iff fun a b => apart

/-- Where all names differ as texts, a repeated one differs from an earlier one in case alone. -/
theorem Database.firstRepeated?_of_nodup {names : List String} {repeated : String}
    (nodup : names.Nodup) :
    firstRepeated? [] names = some repeated ↔
      ∃ before behind, names = before ++ repeated :: behind ∧
        (before.Pairwise fun a b => sameName a b = false) ∧
        ∃ other ∈ before, repeated ≠ other ∧ sameName repeated other = true := by
  rw [firstRepeated?_eq_some_iff]
  refine exists_congr fun before => exists_congr fun behind => and_congr_right fun whole => ?_
  refine and_congr ?_ (exists_congr fun other => and_congr_right fun member => ?_)
  · simp [firstRepeated?_eq_none_iff, nodup_foldCase_iff]
  · subst whole
    have apart := (List.nodup_append.mp nodup).2.2 other member repeated List.mem_cons_self
    exact ⟨fun same => ⟨apart.symm, same⟩, And.right⟩

namespace Schema

variable {schema : Schema} {compiled : Compiled}

/-- The names of an accepted schema's columns differ as texts. -/
theorem nodup_selectedColumns (compiles : schema.compile = .ok compiled) :
    compiled.selectedColumns.Nodup := by
  obtain ⟨checked, planned, rfl, -⟩ := compile_eq_ok_iff.mp compiles
  obtain ⟨-, -, nodup⟩ := check_eq_ok_iff.mp checked
  obtain ⟨columns, -⟩ := plans_eq_ok_iff.mp planned
  rw [← columns, List.map_map] at nodup
  exact nodup.sublist ((List.filter_sublist.map _).cons_cons _)

/-- What becomes of a definition on a new database. A text with NUL in a name is no statement, a
reserved name is refused before the columns are looked at, and then a repeated column is. -/
theorem execute_createStatement (compiles : schema.compile = .ok compiled)
    {connection : Connection} (bare : connection.database = .empty) :
    (Gateway.execute compiled.createStatement connection).1 =
      if (schema.tableOf compiled.plans).NulFree then
        if isReserved schema.table = true then .error (.ofSql (.reservedName schema.table))
        else
          match firstRepeated? [] compiled.selectedColumns with
          | some column => .error (.ofSql (.duplicateColumn column))
          | none => .ok ()
      else .error (.ofSql .malformed) := by
  obtain ⟨-, -, same, written⟩ := compile_eq_ok_iff.mp compiles
  have names := selectedColumns_eq compiled
  rw [same] at names
  have created : connection.database.create (quoteName schema.table)
      (schema.tableOf compiled.plans) =
        if isReserved schema.table = true then .error (.reservedName schema.table)
        else
          match firstRepeated? [] compiled.selectedColumns with
          | some column => .error (.duplicateColumn column)
          | none => .ok ⟨[.empty (schema.tableOf compiled.plans)]⟩ := by
    rw [bare, names]
    rfl
  rw [written]
  split
  · next free =>
    rw [Connection.execute_create (script_definition free), created]
    cases isReserved schema.table with
    | true => rfl
    | false => cases firstRepeated? [] compiled.selectedColumns <;> rfl
  · next broken => rw [Connection.execute_malformed (script_definition_broken broken)]

/-- The columns of an accepted schema differ as texts, the reference to the parent among them. On a
new database the definition gives the table exactly if they differ in any case as well, and then no
two of them are one place; if they do not, it is refused by the first that differs from an earlier
one in case alone. A name with NUL and a table that the database keeps for itself are refused before
that. -/
theorem columns_apart_iff (compiles : schema.compile = .ok compiled) {connection : Connection}
    (bare : connection.database = .empty) :
    compiled.selectedColumns.Nodup ∧
      ((∀ a ∈ compiled.selectedColumns, ∀ b ∈ compiled.selectedColumns,
          (schema.tableOf compiled.plans).place? a = (schema.tableOf compiled.plans).place? b →
            a = b) ↔
        compiled.selectedColumns.Pairwise fun a b => sameName a b = false) ∧
      ((Gateway.execute compiled.createStatement connection).1 = .ok () ↔
        (schema.tableOf compiled.plans).NulFree ∧ isReserved schema.table = false ∧
          compiled.selectedColumns.Pairwise fun a b => sameName a b = false) ∧
      ∀ column, (Gateway.execute compiled.createStatement connection).1 =
          .error (.ofSql (.duplicateColumn column)) ↔
        (schema.tableOf compiled.plans).NulFree ∧ isReserved schema.table = false ∧
          ∃ before behind, compiled.selectedColumns = before ++ column :: behind ∧
            (before.Pairwise fun a b => sameName a b = false) ∧
            ∃ other ∈ before, column ≠ other ∧ sameName column other = true := by
  have nodup := nodup_selectedColumns compiles
  have answer := execute_createStatement compiles bare
  have fresh : firstRepeated? [] compiled.selectedColumns = none ↔
      compiled.selectedColumns.Pairwise fun a b => sameName a b = false := by
    simp [firstRepeated?_eq_none_iff, nodup_foldCase_iff]
  refine ⟨nodup, ?_, ?_, fun column => ?_⟩
  · have names := selectedColumns_eq compiled
    rw [(compile_eq_ok_iff.mp compiles).2.2.1] at names
    rw [names] at nodup ⊢
    rw [← nodup_foldCase_iff]
    exact ⟨fun places => TableDefinition.distinct_iff.mpr ⟨nodup, places⟩,
      fun distinct => (TableDefinition.distinct_iff.mp distinct).2⟩
  · rw [answer, ← fresh]
    split_ifs with free reserved
    · simp [reserved]
    · cases firstRepeated? [] compiled.selectedColumns <;> simp [free, reserved]
    · simp [free]
  · rw [answer, ← firstRepeated?_of_nodup nodup]
    split_ifs with free reserved
    · simp [reserved, Error.ofSql]
    · cases firstRepeated? [] compiled.selectedColumns <;> simp [free, reserved, Error.ofSql]
    · simp [free, Error.ofSql]

/-- A child whose columns all have names of their own. -/
def orderLine : Schema :=
  draft "shop::OrderLine" [.column (.ofField "count" (.integer .int32)),
    .column (.ofField "counted" .boolean), .childOf "shop::Order"]

/-- The child gets its table, and each of its columns is one place. -/
theorem columns_apart_orderLine :
    ∃ compiled, orderLine.compile = .ok compiled ∧
      compiled.selectedColumns = ["id", "count", "counted", "shop_Order_id"] ∧
      (∀ a ∈ compiled.selectedColumns, ∀ b ∈ compiled.selectedColumns,
        (orderLine.tableOf compiled.plans).place? a = (orderLine.tableOf compiled.plans).place? b →
          a = b) ∧
      (Gateway.execute compiled.createStatement Connection.empty).1 = .ok () := by
  let plans : List ColumnPlan :=
    [⟨.ofField "count" (.integer .int32), .integer, .integer⟩,
      ⟨.ofField "counted" .boolean, .integer, .integer⟩,
      ⟨parentMarker "shop::Order", .integer, .integer⟩]
  let compiled : Compiled := ⟨orderLine, orderLine.definition plans, plans⟩
  have compiles : orderLine.compile = .ok compiled :=
    compile_eq_ok_iff.mpr ⟨by decide, by decide, rfl, rfl⟩
  have columns : compiled.selectedColumns = ["id", "count", "counted", "shop_Order_id"] := by decide
  have apart : compiled.selectedColumns.Pairwise fun a b => sameName a b = false := by
    rw [columns]
    decide
  have bare : Connection.empty.database = .empty := rfl
  obtain ⟨-, places, created, -⟩ := columns_apart_iff compiles bare
  exact ⟨compiled, compiles, columns, places.mpr apart,
    created.mpr ⟨by decide, by decide, apart⟩⟩

/-- Two fields in columns whose names differ in case alone. -/
def twin : Schema :=
  draft "shop::Twin" [.column (.ofField "name" .text),
    .column ((Column.ofField "NAME" .text).withField "other")]

/-- The schema is accepted, but both fields are in one column and its table is refused. -/
theorem twin_refused :
    ∃ compiled, twin.compile = .ok compiled ∧
      compiled.selectedColumns = ["id", "name", "NAME"] ∧ sameName "name" "NAME" = true ∧
      (twin.tableOf compiled.plans).place? "name" = (twin.tableOf compiled.plans).place? "NAME" ∧
      (Gateway.execute compiled.createStatement Connection.empty).1 =
        .error (.ofSql (.duplicateColumn "NAME")) := by
  let plans : List ColumnPlan :=
    [⟨.ofField "name" .text, .text, .text⟩,
      ⟨(Column.ofField "NAME" .text).withField "other", .text, .text⟩]
  let compiled : Compiled := ⟨twin, twin.definition plans, plans⟩
  have compiles : twin.compile = .ok compiled :=
    compile_eq_ok_iff.mpr ⟨by decide, by decide, rfl, rfl⟩
  have same : sameName "name" "NAME" = true := by decide
  have columns : compiled.selectedColumns = ["id", "name", "NAME"] := by decide
  refine ⟨compiled, compiles, columns, same, TableDefinition.place?_congr same, ?_⟩
  rw [execute_createStatement compiles rfl, columns, if_pos (by decide), if_neg (by decide)]
  rfl

end Schema

end EntityTables
