/-
# EntityTables.Proofs.Registry.Tables — which registered types have a table of their own

A table is looked for by its name among the adapters of all registered types, and the first adapter
that has it is the answer. So a type is found by its table exactly if no other type has that table,
and that depends on the words of the types' paths alone.

* `Registry.Owns`, `Registry.Grows` — the adapter of a type is there, and stays there.
* `Coherent.adapters_run` — the adapters of all registered types.
* `Coherent.findTable_run` — the type that a table is found for.
* `Registry.tables_apart_iff` — each type is found by its table, and each table is created once,
  exactly if the types' paths have different words.
-/
import EntityTables.Dispatcher
import EntityTables.Gateway.Connection
import EntityTables.Proofs.Derive.Restated
import EntityTables.Proofs.Registry
import EntityTables.Proofs.Schema.TableNames

namespace EntityTables

set_option autoImplicit false

/-- The table of a type is named after its path. -/
theorem Mapping.table_of_compile {mapping : Mapping} {compiled : Compiled}
    (compiles : mapping.compile = .ok compiled) :
    compiled.schema.table = tableName mapping.path := by
  obtain ⟨stated, -⟩ := Mapping.compile_eq_ok_iff.mp compiles
  unfold Schema.table
  rw [Schema.target_of_build stated]

namespace Registry

variable {registry after : Registry} {mapping : Mapping} {own : Instance}

/-! ## The adapters of registered types -/

/-- The adapter of a type is there and is what the type compiles to. -/
structure Owns (registry : Registry) (mapping : Mapping) (own : Instance) : Prop where
  there : registry.compiled? mapping.path = some own
  mapping_eq : own.mapping = mapping
  compiles : mapping.compile = .ok own.compiled

theorem Owns.table (owns : registry.Owns mapping own) : own.table = tableName mapping.path :=
  mapping.table_of_compile owns.compiles

/-- The types stay the same, and no adapter is lost or replaced. -/
structure Grows (registry after : Registry) : Prop where
  registered : after.registered = registry.registered
  kept : ∀ path found, registry.compiled? path = some found → after.compiled? path = some found

theorem Grows.refl (registry : Registry) : registry.Grows registry :=
  ⟨rfl, fun _ _ there => there⟩

theorem Grows.trans {last : Registry} (first : registry.Grows after) (second : after.Grows last) :
    registry.Grows last :=
  ⟨second.registered.trans first.registered,
    fun path found there => second.kept path found (first.kept path found there)⟩

theorem Grows.owns (grows : registry.Grows after) (owns : registry.Owns mapping own) :
    after.Owns mapping own :=
  ⟨grows.kept _ _ owns.there, owns.mapping_eq, owns.compiles⟩

theorem Grows.find? (grows : registry.Grows after) (path : String) :
    after.find? path = registry.find? path := by
  unfold Registry.find?
  rw [grows.registered]

theorem adapter_grows (path : String) (registry : Registry) :
    registry.Grows (adapter path registry).2 := by
  rcases adapter_after path registry with same | ⟨made, -, -, -, grown⟩
  · rw [same]
    exact .refl registry
  · rw [grown]
    refine ⟨rfl, fun path found there => ?_⟩
    unfold compiled? at there ⊢
    rw [List.find?_append, there]
    rfl

/-- The one member that passes a test is the one that is found. -/
theorem find?_eq_some_of_unique {α : Type} {list : List α} {test : α → Bool} {a : α}
    (member : a ∈ list) (passes : test a = true)
    (unique : ∀ b ∈ list, test b = true → b = a) : list.find? test = some a := by
  obtain ⟨b, found⟩ :=
    Option.isSome_iff_exists.mp (List.find?_isSome.mpr ⟨a, member, passes⟩)
  rw [found, unique b (List.mem_of_find?_eq_some found) (List.find?_some found)]

/-- The type of a path is the one that was registered under it. -/
theorem find?_of_mem (distinct : (registry.registered.map Mapping.path).Nodup)
    (member : mapping ∈ registry.registered) : registry.find? mapping.path = some mapping :=
  find?_eq_some_of_unique member (beq_self_eq_true _) fun _ among same =>
    List.inj_on_of_nodup_map distinct among member (beq_iff_eq.mp same)

/-- A registered type that compiles has an adapter, which stays. -/
theorem Coherent.adapter_run (coherent : registry.Coherent)
    (known : registry.find? mapping.path = some mapping)
    (formed : ∃ compiled, mapping.compile = .ok compiled) :
    ∃ own after, Registry.adapter mapping.path registry = (.ok own, after) ∧
      after.Owns mapping own ∧ registry.Grows after ∧ after.Coherent := by
  obtain ⟨compiled, compiles⟩ := formed
  have grows := adapter_grows mapping.path registry
  have kept := coherent.adapter mapping.path
  cases there : registry.compiled? mapping.path with
  | some own =>
    have ran : Registry.adapter mapping.path registry = (.ok own, registry) := by
      rw [adapter_eq, there]
    rw [ran] at grows kept
    obtain ⟨registered, made⟩ := coherent.of_compiled? there
    rw [known] at registered
    have same := Option.some.inj registered
    exact ⟨own, registry, ran, ⟨there, same.symm, same ▸ made⟩, grows, kept⟩
  | none =>
    let own : Instance := ⟨registry.compiled.length, mapping, compiled⟩
    have ran : Registry.adapter mapping.path registry =
        (.ok own, { registry with compiled := registry.compiled ++ [own] }) := by
      rw [adapter_eq, there, known]
      simp only [compiles]
      rfl
    rw [ran] at grows kept
    refine ⟨own, _, ran, ⟨?_, rfl, compiles⟩, grows, kept⟩
    unfold compiled? at there ⊢
    rw [List.find?_append, there]
    simp [own]

/-- Each of some registered types that compile has an adapter in the end. -/
theorem Coherent.mapM_adapter_run {mappings : List Mapping} (coherent : registry.Coherent)
    (known : ∀ mapping ∈ mappings, registry.find? mapping.path = some mapping)
    (formed : ∀ mapping ∈ mappings, ∃ compiled, mapping.compile = .ok compiled) :
    ∃ all after, (mappings.mapM fun mapping => Registry.adapter mapping.path) registry =
        (.ok all, after) ∧
      List.Forall₂ after.Owns mappings all ∧ registry.Grows after ∧ after.Coherent := by
  induction mappings generalizing registry with
  | nil => exact ⟨[], registry, rfl, .nil, .refl registry, coherent⟩
  | cons mapping rest ih =>
    obtain ⟨own, knowing, ran, owns, grows, still⟩ :=
      coherent.adapter_run (known mapping List.mem_cons_self) (formed mapping List.mem_cons_self)
    have others : ∀ other ∈ rest, knowing.find? other.path = some other := fun other member =>
      (grows.find? other.path).trans (known other (List.mem_cons_of_mem mapping member))
    obtain ⟨all, after, behind, each, more, last⟩ :=
      ih still others fun other member => formed other (List.mem_cons_of_mem mapping member)
    refine ⟨own :: all, after, ?_, .cons (more.owns owns) each, grows.trans more, last⟩
    rw [List.mapM_cons, Action.bind_run, ran]
    simp only [Action.bind_run, behind]
    rfl

/-- All registered types compile. -/
def Formed (registry : Registry) : Prop :=
  ∀ mapping ∈ registry.registered, ∃ compiled, mapping.compile = .ok compiled

/-- Whether the table of one type is not behind that of another. -/
def tableLe (a b : Mapping) : Bool := decide (tableName a.path ≤ tableName b.path)

/-- The adapters of all registered types are there in the end, ordered by the types' tables. -/
theorem Coherent.adapters_run (coherent : registry.Coherent)
    (distinct : (registry.registered.map Mapping.path).Nodup) (formed : registry.Formed) :
    ∃ all after, adapters registry = (.ok all, after) ∧ registry.Grows after ∧ after.Coherent ∧
      (∀ own ∈ all, after.Owns own.mapping own) ∧
        all.map Instance.mapping = registry.registered.mergeSort tableLe := by
  obtain ⟨found, after, ran, each, grows, still⟩ :=
    coherent.mapM_adapter_run (fun _ member => find?_of_mem distinct member) formed
  have owned : ∀ own ∈ found, after.Owns own.mapping own := by
    intro own member
    obtain ⟨mapping, -, owns⟩ := exists_left_of_mem each member
    rwa [owns.mapping_eq]
  have mappings : found.map Instance.mapping = registry.registered := by
    have same := List.forall₂_map_right_iff.mpr (each.imp fun _ _ owns => owns.mapping_eq.symm)
    exact (List.forall₂_eq_eq_eq ▸ same : registry.registered = _).symm
  have run : adapters registry = (.ok (found.mergeSort Instance.tableLe), after) := by
    show (do
      let found ← registry.registered.mapM fun mapping => Registry.adapter mapping.path
      return found.mergeSort Instance.tableLe : Action Registry (List Instance)) registry = _
    rw [Action.bind_run, ran]
    rfl
  refine ⟨_, after, run, grows, still, fun own member => owned own (List.mem_mergeSort.mp member), ?_⟩
  rw [← mappings]
  refine List.map_mergeSort fun a first b second => ?_
  unfold Instance.tableLe tableLe
  rw [(owned a first).table, (owned b second).table]

/-! ## Types by their tables -/

/-- The first adapter of a table, among those of all registered types. -/
theorem findTable_eq (table : String) (registry : Registry) :
    findTable table registry = ((fun all => all.find? fun found => found.table == table) <$>
      (adapters registry).1, (adapters registry).2) := by
  unfold findTable
  rw [Action.bind_run]
  rcases adapters registry with ⟨fault | all, after⟩ <;> rfl

/-- An adapter that is found for a table has it. -/
theorem table_of_findTable {table : String} {found : Instance}
    (searched : findTable table registry = (.ok (some found), after)) : found.table = table := by
  rw [findTable_eq] at searched
  obtain ⟨all, -, first⟩ := map_eq_ok_iff.mp (Prod.mk.inj searched).1
  exact beq_iff_eq.mp (List.find?_some (p := fun own : Instance => own.table == table) first)

/-- A table is found for the first registered type, in the order of tables, that has it. -/
theorem Coherent.findTable_run (coherent : registry.Coherent)
    (distinct : (registry.registered.map Mapping.path).Nodup) (formed : registry.Formed)
    (table : String) :
    ∃ found after, findTable table registry = (.ok found, after) ∧ registry.Grows after ∧
      after.Coherent ∧ (∀ own ∈ found, after.Owns own.mapping own) ∧
        found.map Instance.mapping =
          (registry.registered.mergeSort tableLe).find? fun mapping =>
            tableName mapping.path == table := by
  obtain ⟨all, after, ran, grows, still, owned, mappings⟩ := coherent.adapters_run distinct formed
  refine ⟨all.find? fun own => own.table == table, after, ?_, grows, still,
    fun own member => owned own (List.mem_of_find?_eq_some member), ?_⟩
  · unfold findTable
    rw [Action.bind_run, ran]
    rfl
  · rw [← mappings, List.find?_map, ← List.head?_filter, ← List.head?_filter]
    congr 2
    refine List.filter_congr fun own member => ?_
    rw [(owned own member).table]
    rfl

/-- A type is found by the table of its adapter exactly if the table is not found for another. -/
theorem Coherent.findTable_own_iff (coherent : registry.Coherent)
    (distinct : (registry.registered.map Mapping.path).Nodup) (formed : registry.Formed)
    (member : mapping ∈ registry.registered) :
    (∃ own knowing last, Registry.adapter mapping.path registry = (.ok own, knowing) ∧
        findTable own.table knowing = (.ok (some own), last)) ↔
      ((registry.registered.mergeSort tableLe).find? fun other =>
        tableName other.path == tableName mapping.path) = some mapping := by
  obtain ⟨own, knowing, ran, owns, grows, still⟩ :=
    coherent.adapter_run (find?_of_mem distinct member) (formed mapping member)
  obtain ⟨found, last, searched, more, -, owned, first⟩ := still.findTable_run
    (grows.registered ▸ distinct) (fun other among => formed other (grows.registered ▸ among))
    own.table
  rw [grows.registered, owns.table] at first
  have self : last.Owns mapping own := more.owns owns
  constructor
  · rintro ⟨given, state, final, asked, answered⟩
    rw [ran] at asked
    cases asked
    rw [searched] at answered
    cases answered
    rw [← first, Option.map_some, owns.mapping_eq]
  · intro here
    rw [here] at first
    obtain ⟨answer, rfl, same⟩ := Option.map_eq_some_iff.mp first
    -- the adapter that was found is the one that is there for the type
    have there := (owned answer rfl).there
    rw [same, self.there] at there
    cases there
    exact ⟨own, knowing, last, ran, searched⟩

/-- All types are found by their tables exactly if no two have the same table. -/
theorem find?_table_iff (mappings : List Mapping) (distinct : mappings.Nodup) :
    (∀ mapping ∈ mappings, ((mappings.mergeSort tableLe).find? fun other =>
        tableName other.path == tableName mapping.path) = some mapping) ↔
      (mappings.map fun mapping => tableName mapping.path).Nodup := by
  constructor
  · intro each
    refine (List.nodup_map_iff_inj_on distinct).mpr fun a first b second same => ?_
    have found := each a first
    rw [same, each b second] at found
    exact (Option.some.inj found).symm
  · intro apart mapping member
    exact find?_eq_some_of_unique (List.mem_mergeSort.mpr member) (beq_self_eq_true _)
      fun other among same => List.inj_on_of_nodup_map apart (List.mem_mergeSort.mp among) member
        (beq_iff_eq.mp same)

/-! ## One table for each type -/

section Words

variable {names : Mapping → List String}
  (written : ∀ mapping ∈ registry.registered, IsPath (names mapping) mapping.path)

include written

/-- No two tables have one name exactly if no two paths have the same words. -/
theorem nodup_tableName_iff :
    (registry.registered.map fun mapping => tableName mapping.path).Nodup ↔
      (registry.registered.map fun mapping => wordsOf String.toList (names mapping)).Nodup := by
  unfold List.Nodup
  rw [List.pairwise_map, List.pairwise_map]
  exact List.Pairwise.iff_of_mem fun first second =>
    not_congr (tableName_inj_iff (written _ first) (written _ second))

/-- A database tells all tables apart exactly if no two paths have the same words up to case. -/
theorem pairwise_sameName_iff {all : List Instance}
    (tables : ∀ own ∈ all, own.table = tableName own.mapping.path)
    (mappings : (all.map Instance.mapping).Perm registry.registered) :
    (all.Pairwise fun own other => Sql.sameName own.table other.table = false) ↔
      registry.registered.Pairwise fun mapping other =>
        wordsOf Sql.foldCase (names mapping) ≠ wordsOf Sql.foldCase (names other) := by
  rw [← mappings.pairwise_iff Ne.symm, List.pairwise_map]
  refine List.Pairwise.iff_of_mem fun {own other} first second => ?_
  have known {made : Instance} (member : made ∈ all) :
      IsPath (names made.mapping) made.mapping.path :=
    written _ (mappings.mem_iff.mp (List.mem_map_of_mem member))
  rw [tables own first, tables other second, ← Bool.not_eq_true,
    sameName_tableName_iff (known first) (known second)]

end Words

/-- Each registered type is found by the table of its adapter exactly if all of them compile and no
two of their paths have the same words. The tables of all types are created by one statement each,
for tables that the database tells apart exactly if no two paths have the same words up to case. -/
theorem tables_apart_iff {σ : Type} [Gateway σ] (coherent : registry.Coherent)
    (distinct : (registry.registered.map Mapping.path).Nodup) {names : Mapping → List String}
    (written : ∀ mapping ∈ registry.registered, IsPath (names mapping) mapping.path) :
    ((registry.registered.map fun mapping => tableName mapping.path).Nodup ↔
        (registry.registered.map fun mapping => wordsOf String.toList (names mapping)).Nodup) ∧
      ((∀ mapping ∈ registry.registered, ∃ own knowing last,
          adapter mapping.path registry = (.ok own, knowing) ∧
            findTable own.table knowing = (.ok (some own), last)) ↔
        registry.Formed ∧
          (registry.registered.map fun mapping => wordsOf String.toList (names mapping)).Nodup) ∧
      (registry.Formed → ∃ (all : List Instance) (knowing : Registry),
        (all.map Instance.mapping).Perm registry.registered ∧
          (∀ storage : σ, Dispatcher.createAll ⟨registry, storage⟩ =
            (do all.forM fun own => Gateway.execute own.compiled.createStatement
                return all.length : Action (Session σ) Nat) ⟨knowing, storage⟩) ∧
          ((all.Pairwise fun own other => Sql.sameName own.table other.table = false) ↔
            registry.registered.Pairwise fun mapping other =>
              wordsOf Sql.foldCase (names mapping) ≠ wordsOf Sql.foldCase (names other))) := by
  refine ⟨nodup_tableName_iff written, ?_, ?_⟩
  · rw [← nodup_tableName_iff written, ← find?_table_iff _ (List.Nodup.of_map _ distinct)]
    constructor
    · intro each
      have formed : registry.Formed := by
        intro mapping member
        obtain ⟨own, knowing, -, ran, -⟩ := each mapping member
        exact ⟨_, (coherent.knows_of_adapter (find?_of_mem distinct member) ran).1⟩
      exact ⟨formed, fun mapping member =>
        (coherent.findTable_own_iff distinct formed member).mp (each mapping member)⟩
    · rintro ⟨formed, each⟩ mapping member
      exact (coherent.findTable_own_iff distinct formed member).mpr (each mapping member)
  · intro formed
    obtain ⟨all, knowing, ran, -, -, owned, mappings⟩ := coherent.adapters_run distinct formed
    have whole : (all.map Instance.mapping).Perm registry.registered :=
      mappings ▸ List.mergeSort_perm _ _
    refine ⟨all, knowing, whole, fun storage => ?_, pairwise_sameName_iff written
      (fun own member => (owned own member).table) whole⟩
    unfold Dispatcher.createAll
    rw [Action.bind_run]
    unfold Session.onRegistry
    rw [Action.within_run]
    simp only [ran]

/-- A type with nothing but its identity. -/
def bareMapping (path : String) : Mapping :=
  ⟨path, ⟨Adapter.lastSegment path, "id", [], none, [], []⟩, none⟩

/-- The schema of such a type. -/
def bareCompiled (path : String) : Compiled :=
  let schema := Schema.draft path [.identity "id"]
  ⟨schema, schema.definition [], []⟩

/-- An underscore in a name does no harm by itself: both types are found by their tables. -/
theorem tables_apart_shop :
    let registry : Registry := ⟨[bareMapping "shop::order_line", bareMapping "shop::line"], []⟩
    ∀ mapping ∈ registry.registered, ∃ own knowing last,
      adapter mapping.path registry = (.ok own, knowing) ∧
        findTable own.table knowing = (.ok (some own), last) := by
  intro registry
  let names (mapping : Mapping) : List String :=
    if mapping.path = "shop::line" then ["shop", "line"] else ["shop", "order_line"]
  have coherent : registry.Coherent := fun _ member => nomatch member
  have written : ∀ mapping ∈ registry.registered, IsPath (names mapping) mapping.path := by
    intro mapping member
    simp only [registry, List.mem_cons, List.not_mem_nil, or_false] at member
    rcases member with rfl | rfl
    · exact ⟨by decide, by decide, by decide⟩
    · exact ⟨by decide, by decide, by decide⟩
  have formed : registry.Formed := by
    intro mapping member
    simp only [registry, List.mem_cons, List.not_mem_nil, or_false] at member
    rcases member with rfl | rfl
    · exact ⟨bareCompiled "shop::order_line", by rfl⟩
    · exact ⟨bareCompiled "shop::line", by rfl⟩
  obtain ⟨-, found, -⟩ := tables_apart_iff (σ := Connection) coherent (by decide) written
  exact found.mpr ⟨formed, by decide⟩

/-- Two types with paths of the same words. -/
def twins : Registry := ⟨[bareMapping "shop::order_line", bareMapping "shop_order::line"], []⟩

/-- The two types are not both found by their tables, and the tables of all types are one table,
created twice. -/
theorem tables_collide :
    (twins.registered.map Mapping.path).Nodup ∧
      IsPath ["shop", "order_line"] "shop::order_line" ∧
      IsPath ["shop_order", "line"] "shop_order::line" ∧
      tableName "shop::order_line" = tableName "shop_order::line" ∧
      (¬ ∀ mapping ∈ twins.registered, ∃ own knowing last,
        adapter mapping.path twins = (.ok own, knowing) ∧
          findTable own.table knowing = (.ok (some own), last)) ∧
      ∃ all knowing, adapters twins = (.ok all, knowing) ∧
        all.map Instance.table = ["shop_order_line", "shop_order_line"] := by
  have coherent : twins.Coherent := fun _ member => nomatch member
  have distinct : (twins.registered.map Mapping.path).Nodup := by decide
  have formed : twins.Formed := by
    intro mapping member
    simp only [twins, List.mem_cons, List.not_mem_nil, or_false] at member
    rcases member with rfl | rfl
    · exact ⟨bareCompiled "shop::order_line", by rfl⟩
    · exact ⟨bareCompiled "shop_order::line", by rfl⟩
  have shared : ∀ mapping ∈ twins.registered, tableName mapping.path = "shop_order_line" := by
    decide
  refine ⟨distinct, ⟨by decide, by decide, by decide⟩, ⟨by decide, by decide, by decide⟩,
    by decide, ?_, ?_⟩
  · intro each
    have apart := (find?_table_iff twins.registered (List.Nodup.of_map _ distinct)).mp
      fun mapping member =>
        (coherent.findTable_own_iff distinct formed member).mp (each mapping member)
    exact absurd apart (by decide)
  · obtain ⟨all, knowing, ran, -, -, owned, mappings⟩ := coherent.adapters_run distinct formed
    have whole : (all.map Instance.mapping).Perm twins.registered :=
      mappings ▸ List.mergeSort_perm _ _
    refine ⟨all, knowing, ran, ?_⟩
    show all.map Instance.table = List.replicate 2 "shop_order_line"
    refine List.eq_replicate_iff.mpr ⟨?_, ?_⟩
    · rw [List.length_map, ← List.length_map Instance.mapping, whole.length_eq]
      rfl
    · intro table member
      obtain ⟨own, among, rfl⟩ := List.mem_map.mp member
      rw [(owned own among).table]
      exact shared _ (whole.mem_iff.mp (List.mem_map_of_mem among))

end Registry

end EntityTables
