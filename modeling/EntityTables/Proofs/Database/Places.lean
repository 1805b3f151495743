/-
# EntityTables.Proofs.Database.Places — the columns of a table by name

In a table whose column names are different, whatever their case, a name means one place. Values by
column name come to values by place, and what a place is given is what its name is given.

* `TableDefinition.Distinct` — no two columns share a name; `create_eq_ok_iff` — a new table has it.
* `place?_stored`, `place?_identity` — the place of a name.
* `givenFor_placed` — what values by name give for a place.
-/
import EntityTables.Database.Basic
import EntityTables.Proofs.Entity.RoundTrip

namespace EntityTables

set_option autoImplicit false

open Sql

namespace Sql.TableDefinition

variable {definition : TableDefinition}

/-- The names of the columns besides the identity. -/
def columnNames (definition : TableDefinition) : List String := definition.columns.map Prod.fst

/-- No two columns have names that differ at most in case. -/
def Distinct (definition : TableDefinition) : Prop :=
  ((definition.identity :: definition.columnNames).map foldCase).Nodup

instance (definition : TableDefinition) : Decidable definition.Distinct :=
  inferInstanceAs (Decidable (List.Nodup _))

/-- The place of a column besides the identity. -/
def stored (definition : TableDefinition) (name : String) : Database.Place :=
  .stored (definition.columnNames.idxOf name)

theorem sameName_iff {a b : String} : sameName a b = true ↔ foldCase a = foldCase b := by
  simp [sameName]

theorem Distinct.names_nodup (distinct : definition.Distinct) : definition.columnNames.Nodup :=
  (List.nodup_cons.mp distinct).2.of_map _

/-- Of two columns with names that differ at most in case, each is the other. -/
theorem Distinct.same (distinct : definition.Distinct) {a b : String}
    (first : a ∈ definition.columnNames) (second : b ∈ definition.columnNames)
    (same : sameName a b = true) : a = b :=
  List.inj_on_of_nodup_map (List.nodup_cons.mp distinct).2 first second (sameName_iff.mp same)

theorem Distinct.not_identity (distinct : definition.Distinct) {name : String}
    (member : name ∈ definition.columnNames) : sameName definition.identity name = false := by
  refine Bool.eq_false_iff.mpr fun same => ?_
  refine (List.nodup_cons.mp distinct).1 (List.mem_map.mpr ⟨name, member, ?_⟩)
  exact (sameName_iff.mp same).symm

theorem place?_identity (definition : TableDefinition) :
    definition.place? definition.identity = some .identity := by
  rw [place?, if_pos (Reading.sameName_self _)]

theorem place?_stored (distinct : definition.Distinct) {name : String}
    (member : name ∈ definition.columnNames) :
    definition.place? name = some (definition.stored name) := by
  have apart := distinct.not_identity member
  have found : definition.columns.findIdx? (fun column => sameName column.1 name) =
      some (definition.columnNames.idxOf name) := by
    rw [List.findIdx?_eq_some_iff_getElem]
    have within := List.idxOf_lt_length_iff.mpr member
    have bound : definition.columnNames.idxOf name < definition.columns.length := by
      simpa [columnNames] using within
    refine ⟨bound, ?_, ?_⟩
    · have here : definition.columns[definition.columnNames.idxOf name].1 = name :=
        (List.getElem_map Prod.fst).symm.trans (List.getElem_idxOf within)
      exact sameName_iff.mpr (congrArg foldCase here)
    · intro earlier before same
      have close : earlier < definition.columnNames.length := before.trans within
      have among : definition.columnNames[earlier] ∈ definition.columnNames :=
        List.getElem_mem close
      have twin := distinct.same among member (by simpa [columnNames] using same)
      have back := distinct.names_nodup.idxOf_getElem earlier close
      rw [twin] at back
      omega
  rw [place?, apart, found]
  rfl

/-- The place of a column is its number. -/
theorem stored_of_getElem? (distinct : definition.Distinct) {index : Nat} {name : String}
    {storage : Storage} (found : definition.columns[index]? = some (name, storage)) :
    definition.stored name = .stored index := by
  have named : definition.columnNames[index]? = some name := by simp [columnNames, found]
  obtain ⟨within, same⟩ := List.getElem?_eq_some_iff.mp named
  have back := distinct.names_nodup.idxOf_getElem index within
  rw [same] at back
  rw [stored, back]

theorem stored_inj {a b : String} (first : a ∈ definition.columnNames)
    (same : definition.stored a = definition.stored b) : a = b := by
  simp only [stored, Database.Place.stored.injEq] at same
  exact (List.idxOf_inj first).mp same

end Sql.TableDefinition

namespace Database

/-- No name is repeated exactly if all names differ, whatever their case. -/
theorem firstRepeated?_eq_none_iff {earlier names : List String} :
    firstRepeated? earlier names = none ↔
      (names.map foldCase).Nodup ∧ ∀ name ∈ names, ∀ other ∈ earlier,
        foldCase name ≠ foldCase other := by
  induction names generalizing earlier with
  | nil => simp [firstRepeated?]
  | cons name rest ih =>
    rw [firstRepeated?]
    split
    · next repeated =>
      obtain ⟨other, member, same⟩ := List.any_eq_true.mp repeated
      simp only [reduceCtorEq, false_iff, not_and]
      intro _ apart
      exact apart name List.mem_cons_self other member
        (TableDefinition.sameName_iff.mp same)
    · next fresh =>
      simp only [List.any_eq_true, not_exists, not_and, TableDefinition.sameName_iff] at fresh
      rw [ih, List.map_cons, List.nodup_cons]
      constructor
      · rintro ⟨distinct, apart⟩
        refine ⟨⟨?_, distinct⟩, ?_⟩
        · intro repeated
          obtain ⟨other, member, same⟩ := List.mem_map.mp repeated
          exact apart other member name List.mem_cons_self same
        · intro other member before among
          rcases List.mem_cons.mp member with rfl | behind
          · exact fresh before among
          · exact apart other behind before (.tail _ among)
      · rintro ⟨⟨single, distinct⟩, apart⟩
        refine ⟨distinct, ?_⟩
        intro other member before among
        rcases List.mem_cons.mp among with rfl | behind
        · intro same
          exact single (same ▸ List.mem_map_of_mem member)
        · exact apart other (.tail _ member) before behind

theorem create_eq_ok_iff {database after : Database} {spelling : String}
    {definition : TableDefinition} :
    database.create spelling definition = .ok after ↔
      isReserved definition.name = false ∧
        database.tables.any (Table.isNamed definition.name) = false ∧ definition.Distinct ∧
          after = ⟨database.tables ++ [.empty definition]⟩ := by
  have repeated : firstRepeated? [] (definition.identity :: definition.columns.map Prod.fst) = none ↔
      definition.Distinct := by
    rw [firstRepeated?_eq_none_iff]
    simp [TableDefinition.Distinct, TableDefinition.columnNames]
  unfold create
  cases isReserved definition.name with
  | true => simp
  | false =>
    cases database.tables.any (Table.isNamed definition.name) with
    | true => simp
    | false =>
      rw [← repeated]
      cases firstRepeated? [] (definition.identity :: definition.columns.map Prod.fst) with
      | some column => simp
      | none => simp [eq_comm]

/-! ## Values by name -/

/-- What the first of several values gives is what any gives, where no place has two. -/
theorem givenFor_eq_some_iff {values : List (Place × Cell)} {place : Place} {cell : Cell}
    (distinct : (values.map Prod.fst).Nodup) :
    givenFor values place = some cell ↔ (place, cell) ∈ values := by
  unfold givenFor
  rw [Option.map_eq_some_iff]
  constructor
  · rintro ⟨⟨other, given⟩, found, rfl⟩
    have same := List.find?_some found
    simp only [decide_eq_true_eq] at same
    exact same ▸ List.mem_of_find?_eq_some found
  · intro member
    have some : (values.find? fun v => v.1 = place).isSome = true :=
      List.find?_isSome.mpr ⟨_, member, by simp⟩
    obtain ⟨⟨other, given⟩, found⟩ := Option.isSome_iff_exists.mp some
    have same := List.find?_some found
    simp only [decide_eq_true_eq] at same
    subst same
    have twin := List.inj_on_of_nodup_map distinct (List.mem_of_find?_eq_some found) member rfl
    exact ⟨_, found, congrArg Prod.snd twin⟩

end Database

namespace RowValues

variable {definition : TableDefinition} {values : RowValues}

/-- The values as they are bound to the placeholders of a statement. -/
def bound (values : RowValues) : List (String × Cell) :=
  values.entries.map fun entry => (entry.1, Cell.ofValue entry.2)

/-- The values at the places of their columns. -/
def placed (definition : TableDefinition) (values : RowValues) : List (Database.Place × Cell) :=
  values.entries.map fun entry => (definition.stored entry.1, Cell.ofValue entry.2)

/-- Every value is for a column of a table, and none for its identity. -/
def Fits (definition : TableDefinition) (values : RowValues) : Prop :=
  ∀ name ∈ values.columns, name ∈ definition.columnNames

theorem columns_ne_nil (some : values.isEmpty = false) : values.columns ≠ [] := by
  intro empty
  rw [columns, List.map_eq_nil_iff] at empty
  simp [isEmpty, empty] at some

theorem get?_eq_some_iff {name : String} {value : Value} :
    values.get? name = some value ↔ (name, value) ∈ values.entries :=
  findPair?_eq_some_iff values.distinct

theorem isSome_get?_iff {name : String} :
    (values.get? name).isSome = true ↔ name ∈ values.columns := by
  rw [Option.isSome_iff_exists, columns, List.mem_map]
  constructor
  · rintro ⟨value, found⟩
    exact ⟨_, get?_eq_some_iff.mp found, rfl⟩
  · rintro ⟨⟨_, value⟩, member, rfl⟩
    exact ⟨value, get?_eq_some_iff.mpr member⟩

theorem get?_eq_none_iff {name : String} :
    values.get? name = none ↔ name ∉ values.columns := by
  rw [← isSome_get?_iff, Option.not_isSome_iff_eq_none]

theorem nodup_placed (fits : values.Fits definition) :
    ((values.placed definition).map Prod.fst).Nodup := by
  have places : (values.placed definition).map Prod.fst =
      values.columns.map definition.stored := by
    rw [placed, columns, List.map_map, List.map_map]
    rfl
  rw [places]
  refine List.Nodup.map_on ?_ values.distinct
  intro a first b _ same
  exact TableDefinition.stored_inj (fits a first) same

theorem nodup_placed_reverse (fits : values.Fits definition) :
    ((values.placed definition).reverse.map Prod.fst).Nodup := by
  rw [List.map_reverse]
  exact List.nodup_reverse.mpr (nodup_placed fits)

theorem givenFor_placed_reverse (fits : values.Fits definition) {name : String}
    (member : name ∈ definition.columnNames) :
    Database.givenFor (values.placed definition).reverse (definition.stored name) =
      (values.get? name).map Cell.ofValue := by
  refine Option.ext fun cell => ?_
  rw [Database.givenFor_eq_some_iff (nodup_placed_reverse fits), List.mem_reverse,
    Option.map_eq_some_iff]
  simp only [placed, List.mem_map, Prod.mk.injEq]
  constructor
  · rintro ⟨⟨other, value⟩, among, same, rfl⟩
    have twin : name = other := TableDefinition.stored_inj member same.symm
    exact ⟨value, get?_eq_some_iff.mpr (twin ▸ among), rfl⟩
  · rintro ⟨value, found, rfl⟩
    exact ⟨(name, value), get?_eq_some_iff.mp found, rfl, rfl⟩

theorem givenFor_placed (fits : values.Fits definition) {name : String}
    (member : name ∈ definition.columnNames) :
    Database.givenFor (values.placed definition) (definition.stored name) =
      (values.get? name).map Cell.ofValue := by
  rw [← givenFor_placed_reverse fits member]
  refine Option.ext fun cell => ?_
  rw [Database.givenFor_eq_some_iff (nodup_placed fits),
    Database.givenFor_eq_some_iff (nodup_placed_reverse fits), List.mem_reverse]

theorem givenFor_placed_identity :
    Database.givenFor (values.placed definition).reverse .identity = none := by
  unfold Database.givenFor
  rw [Option.map_eq_none_iff, List.find?_eq_none]
  intro v member
  obtain ⟨entry, -, rfl⟩ := List.mem_map.mp (List.mem_reverse.mp member)
  simp [TableDefinition.stored]

end RowValues

end EntityTables
