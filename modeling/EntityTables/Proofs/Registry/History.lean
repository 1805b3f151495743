/-
# EntityTables.Proofs.Registry.History — answers depend on which types are registered, on no more

A registry compiles adapters one by one as they are asked for, and a call that fails may have
compiled some on its way. None of that shows: whatever was called before, each answer is the one
that the registered types alone give. Only the order of adapters with the same table, and which of
several faults is named, are left open.

* `RegistryCall`, `Runs` — a history of calls; types are kept in no particular order.
* `RegistryCall.Answers` — the answers that a set of types gives.
* `Settled` — the invariant of histories; `Settled.perform` — what one call does to it.
* `Registry.answers_afresh` — all answers of a history are those of the types registered so far.
-/
import EntityTables.Proofs.Registry.Tables

namespace EntityTables

set_option autoImplicit false

/-- A call of a registry. -/
inductive RegistryCall where
  | register (mapping : Mapping)
  | isRegistered (path : String)
  | adapter (path : String)
  | adapters
  | findTable (table : String)

/-- What a call gives. -/
inductive RegistryAnswer where
  | done
  | registered (known : Bool)
  | adapter (found : Instance)
  | adapters (all : List Instance)
  | table (found? : Option Instance)

/-- No two types have the same path. -/
def Registry.OneEach (types : List Mapping) : Prop :=
  ∀ mapping ∈ types, ∀ other ∈ types, mapping.path = other.path → mapping = other

theorem Registry.OneEach.of_subset {types fewer : List Mapping} (one : OneEach types)
    (subset : fewer ⊆ types) : OneEach fewer :=
  fun mapping member other among => one mapping (subset member) other (subset among)

/-- Adapters put in the order of their tables stand in it. -/
theorem Instance.pairwise_mergeSort_tableLe (found : List Instance) :
    (found.mergeSort tableLe).Pairwise fun own other => tableLe own other = true := by
  refine List.pairwise_mergeSort (fun a b c first second => ?_) (fun a b => ?_) found
  · exact decide_eq_true (String.le_trans (of_decide_eq_true first) (of_decide_eq_true second))
  · simpa [tableLe] using String.le_total a.table b.table

namespace RegistryCall

/-- Carries out a call. -/
def perform : RegistryCall → Action Registry RegistryAnswer
  | register mapping => do
    Registry.register mapping
    return .done
  | isRegistered path => .registered <$> Registry.isRegistered path
  | adapter path => .adapter <$> Registry.adapter path
  | adapters => .adapters <$> Registry.adapters
  | findTable table => .table <$> Registry.findTable table

/-- The type that a call registers. -/
def type? : RegistryCall → Option Mapping
  | register mapping => some mapping
  | _ => none

variable (own : Mapping → Option Instance) (types : List Mapping)

/-- The adapters of some types, in the order of their tables. -/
structure Lists (all : List Instance) : Prop where
  each : ∀ found ∈ all, own found.mapping = some found
  whole : ∀ mapping, mapping ∈ all.map Instance.mapping ↔ mapping ∈ types
  once : (all.map Instance.mapping).Nodup
  ordered : all.Pairwise fun found other => found.table ≤ other.table

/-- The answers to a call where some types are registered, each of which may have an adapter of its
own. -/
inductive Answers : RegistryCall → Except Error RegistryAnswer → Prop where
  | register (mapping : Mapping) : Answers (.register mapping) (.ok .done)
  | known {mapping : Mapping} {path : String} (member : mapping ∈ types)
      (named : mapping.path = path) : Answers (.isRegistered path) (.ok (.registered true))
  | unknown {path : String} (apart : ∀ mapping ∈ types, mapping.path ≠ path) :
      Answers (.isRegistered path) (.ok (.registered false))
  | adapter {mapping : Mapping} {path : String} {found : Instance} (member : mapping ∈ types)
      (named : mapping.path = path) (owned : own mapping = some found) :
      Answers (.adapter path) (.ok (.adapter found))
  | unregistered {path : String} (apart : ∀ mapping ∈ types, mapping.path ≠ path) :
      Answers (.adapter path) (.error (.configuration (.unregistered path)))
  | refused {mapping : Mapping} {path : String} {fault : SchemaError} (member : mapping ∈ types)
      (named : mapping.path = path) (fails : mapping.compile = .error fault) :
      Answers (.adapter path) (.error (.schema fault))
  | adapters {all : List Instance} (lists : Lists own types all) :
      Answers .adapters (.ok (.adapters all))
  | adaptersRefused {mapping : Mapping} {fault : SchemaError} (member : mapping ∈ types)
      (fails : mapping.compile = .error fault) : Answers .adapters (.error (.schema fault))
  | table {all : List Instance} {found : Instance} {table : String} (lists : Lists own types all)
      (among : found ∈ all) (named : found.table = table) :
      Answers (.findTable table) (.ok (.table (some found)))
  | noTable {all : List Instance} {table : String} (lists : Lists own types all)
      (apart : ∀ found ∈ all, found.table ≠ table) :
      Answers (.findTable table) (.ok (.table none))
  | tableRefused {mapping : Mapping} {fault : SchemaError} {table : String}
      (member : mapping ∈ types) (fails : mapping.compile = .error fault) :
      Answers (.findTable table) (.error (.schema fault))

variable {own : Mapping → Option Instance} {types : List Mapping}

/-- Which types there are counts, and neither their order nor how often they are listed. -/
theorem Answers.of_same {others : List Mapping} {call : RegistryCall}
    {answer : Except Error RegistryAnswer} (answers : Answers own types call answer)
    (same : ∀ mapping, mapping ∈ types ↔ mapping ∈ others) : Answers own others call answer := by
  have listed {all : List Instance} (lists : Lists own types all) : Lists own others all :=
    ⟨lists.each, fun mapping => (lists.whole mapping).trans (same mapping), lists.once,
      lists.ordered⟩
  have apart {path : String} (none : ∀ mapping ∈ types, mapping.path ≠ path) :
      ∀ mapping ∈ others, mapping.path ≠ path :=
    fun mapping member => none mapping ((same mapping).mpr member)
  cases answers with
  | register mapping => exact .register mapping
  | known member named => exact .known ((same _).mp member) named
  | unknown none => exact .unknown (apart none)
  | adapter member named owned => exact .adapter ((same _).mp member) named owned
  | unregistered none => exact .unregistered (apart none)
  | refused member named fails => exact .refused ((same _).mp member) named fails
  | adapters lists => exact .adapters (listed lists)
  | adaptersRefused member fails => exact .adaptersRefused ((same _).mp member) fails
  | table lists among named => exact .table (listed lists) among named
  | noTable lists none => exact .noTable (listed lists) none
  | tableRefused member fails => exact .tableRefused ((same _).mp member) fails

/-- Adapters that are compiled later change no answer. -/
theorem Answers.mono {more : Mapping → Option Instance} {call : RegistryCall}
    {answer : Except Error RegistryAnswer} (answers : Answers own types call answer)
    (kept : ∀ mapping found, own mapping = some found → more mapping = some found) :
    Answers more types call answer := by
  have listed {all : List Instance} (lists : Lists own types all) : Lists more types all :=
    ⟨fun found member => kept _ _ (lists.each found member), lists.whole, lists.once,
      lists.ordered⟩
  cases answers with
  | register mapping => exact .register mapping
  | known member named => exact .known member named
  | unknown none => exact .unknown none
  | adapter member named owned => exact .adapter member named (kept _ _ owned)
  | unregistered none => exact .unregistered none
  | refused member named fails => exact .refused member named fails
  | adapters lists => exact .adapters (listed lists)
  | adaptersRefused member fails => exact .adaptersRefused member fails
  | table lists among named => exact .table (listed lists) among named
  | noTable lists none => exact .noTable (listed lists) none
  | tableRefused member fails => exact .tableRefused member fails

/-- Adapters are of their types and are what the types compile to. -/
def Faithful (own : Mapping → Option Instance) (types : List Mapping) : Prop :=
  ∀ mapping ∈ types, ∀ found, own mapping = some found →
    found.mapping = mapping ∧ mapping.compile = .ok found.compiled

/-- Where all adapters are listed, all types compile. -/
theorem Lists.not_fails {own : Mapping → Option Instance} {types : List Mapping}
    {all : List Instance} (lists : Lists own types all) (faithful : Faithful own types)
    {mapping : Mapping} {fault : SchemaError} (member : mapping ∈ types)
    (fails : mapping.compile = .error fault) : False := by
  obtain ⟨found, among, rfl⟩ := List.mem_map.mp ((lists.whole mapping).mpr member)
  obtain ⟨-, compiles⟩ := faithful _ member found (lists.each found among)
  rw [fails] at compiles
  cases compiles

/-- Two answers to a call that tell the same: they may differ in the numbers of adapters, in the
order of adapters with the same table, and in which of several faults is named. -/
inductive Alike : RegistryCall → Except Error RegistryAnswer → Except Error RegistryAnswer → Prop where
  | same (call : RegistryCall) (answer : Except Error RegistryAnswer) : Alike call answer answer
  | adapter {path : String} {found other : Instance} (mapping : found.mapping = other.mapping)
      (compiled : found.compiled = other.compiled) :
      Alike (.adapter path) (.ok (.adapter found)) (.ok (.adapter other))
  | adapters {all others : List Instance}
      (mappings : (all.map Instance.mapping).Perm (others.map Instance.mapping))
      (tables : all.map Instance.table = others.map Instance.table) :
      Alike .adapters (.ok (.adapters all)) (.ok (.adapters others))
  | adaptersRefused (fault other : SchemaError) :
      Alike .adapters (.error (.schema fault)) (.error (.schema other))
  | table {table : String} {found other : Instance} (named : found.table = table)
      (same : other.table = table) :
      Alike (.findTable table) (.ok (.table (some found))) (.ok (.table (some other)))
  | tableRefused (table : String) (fault other : SchemaError) :
      Alike (.findTable table) (.error (.schema fault)) (.error (.schema other))

section Alike

variable {own more : Mapping → Option Instance} {types : List Mapping} {all others : List Instance}

theorem Lists.perm (lists : Lists own types all) (further : Lists more types others) :
    (all.map Instance.mapping).Perm (others.map Instance.mapping) :=
  (List.perm_ext_iff_of_nodup lists.once further.once).mpr fun mapping =>
    (lists.whole mapping).trans (further.whole mapping).symm

theorem Lists.table (lists : Lists own types all) (faithful : Faithful own types)
    {found : Instance} (member : found ∈ all) : found.table = tableName found.mapping.path := by
  have known := (lists.whole _).mp (List.mem_map_of_mem member)
  obtain ⟨-, compiles⟩ := faithful _ known found (lists.each found member)
  exact found.mapping.table_of_compile compiles

/-- All adapters have the same tables in the same order, whenever they are listed. -/
theorem Lists.tables (lists : Lists own types all) (further : Lists more types others)
    (faithful : Faithful own types) (still : Faithful more types) :
    all.map Instance.table = others.map Instance.table := by
  have named {own : Mapping → Option Instance} {all : List Instance} (lists : Lists own types all)
      (faithful : Faithful own types) : all.map Instance.table =
        (all.map Instance.mapping).map fun mapping => tableName mapping.path := by
    rw [List.map_map]
    exact List.map_congr_left fun found member => lists.table faithful member
  have perm : (all.map Instance.table).Perm (others.map Instance.table) := by
    rw [named lists faithful, named further still]
    exact (lists.perm further).map _
  exact perm.eq_of_pairwise (fun _ _ _ _ => String.le_antisymm)
    (List.pairwise_map.mpr lists.ordered) (List.pairwise_map.mpr further.ordered)

/-- A table that is in one list is in any other. -/
theorem Lists.not_table {table : String} (lists : Lists own types all)
    (further : Lists more types others) (faithful : Faithful more types) (still : Faithful own types)
    (none : ∀ found ∈ all, found.table ≠ table) {found : Instance} (member : found ∈ others)
    (named : found.table = table) : False := by
  have among : found.table ∈ all.map Instance.table := by
    rw [lists.tables further still faithful]
    exact List.mem_map_of_mem member
  obtain ⟨other, here, same⟩ := List.mem_map.mp among
  exact none other here (same.trans named)

/-- Two answers that the same types give tell the same. -/
theorem Answers.alike {call : RegistryCall} {answer other : Except Error RegistryAnswer}
    (one : Registry.OneEach types) (faithful : Faithful own types) (still : Faithful more types)
    (answers : call.Answers own types answer) (again : call.Answers more types other) :
    call.Alike answer other := by
  cases answers with
  | register mapping =>
    cases again
    exact .same _ _
  | known member named =>
    cases again with
    | known => exact .same _ _
    | unknown none => exact absurd named (none _ member)
  | unknown none =>
    cases again with
    | known member named => exact absurd named (none _ member)
    | unknown => exact .same _ _
  | adapter member named owned =>
    obtain ⟨itself, compiles⟩ := faithful _ member _ owned
    cases again with
    | adapter among same owned =>
      obtain rfl := one _ member _ among (named.trans same.symm)
      obtain ⟨whose, made⟩ := still _ among _ owned
      rw [compiles] at made
      exact .adapter (itself.trans whose.symm) (Except.ok.inj made)
    | unregistered none => exact absurd named (none _ member)
    | refused among same fails =>
      obtain rfl := one _ member _ among (named.trans same.symm)
      rw [compiles] at fails
      cases fails
  | unregistered none =>
    cases again with
    | adapter member named => exact absurd named (none _ member)
    | unregistered => exact .same _ _
    | refused member named => exact absurd named (none _ member)
  | refused member named fails =>
    cases again with
    | adapter among same owned =>
      obtain rfl := one _ member _ among (named.trans same.symm)
      obtain ⟨-, made⟩ := still _ among _ owned
      rw [fails] at made
      cases made
    | unregistered none => exact absurd named (none _ member)
    | refused among same failed =>
      obtain rfl := one _ member _ among (named.trans same.symm)
      rw [fails] at failed
      cases failed
      exact .same _ _
  | adapters lists =>
    cases again with
    | adapters further =>
      exact .adapters (lists.perm further) (lists.tables further faithful still)
    | adaptersRefused member fails => exact (lists.not_fails faithful member fails).elim
  | adaptersRefused member fails =>
    cases again with
    | adapters further => exact (further.not_fails still member fails).elim
    | adaptersRefused => exact .adaptersRefused _ _
  | table lists among named =>
    cases again with
    | table further member same => exact .table named same
    | noTable further none => exact (further.not_table lists faithful still none among named).elim
    | tableRefused member fails => exact (lists.not_fails faithful member fails).elim
  | noTable lists none =>
    cases again with
    | table further member same =>
      exact (lists.not_table further still faithful none member same).elim
    | noTable => exact .same _ _
    | tableRefused member fails => exact (lists.not_fails faithful member fails).elim
  | tableRefused member fails =>
    cases again with
    | table further => exact (further.not_fails still member fails).elim
    | noTable further => exact (further.not_fails still member fails).elim
    | tableRefused => exact .tableRefused _ _ _

end Alike

end RegistryCall

namespace Registry

variable {registry after last : Registry} {types : List Mapping} {mapping : Mapping}

/-- Calls one after the other, with their answers, and the registry after them. The registered types
are kept in no particular order: between calls they may come to stand in another one. -/
inductive Runs : Registry → List (RegistryCall × Except Error RegistryAnswer) → Registry → Prop where
  | nil (registry : Registry) : Runs registry [] registry
  | reorder {registry reordered last : Registry}
      {history : List (RegistryCall × Except Error RegistryAnswer)}
      (same : reordered.registered.Perm registry.registered)
      (compiled : reordered.compiled = registry.compiled) (rest : Runs reordered history last) :
      Runs registry history last
  | call {registry last : Registry}
      {history : List (RegistryCall × Except Error RegistryAnswer)} (call : RegistryCall)
      (rest : Runs (call.perform registry).2 history last) :
      Runs registry ((call, (call.perform registry).1) :: history) last

/-- The types that are registered in a history. -/
def typesOf (history : List (RegistryCall × Except Error RegistryAnswer)) : List Mapping :=
  history.filterMap fun done => done.1.type?

theorem typesOf_cons (done : RegistryCall × Except Error RegistryAnswer)
    (history : List (RegistryCall × Except Error RegistryAnswer)) :
    typesOf (done :: history) = done.1.type?.toList ++ typesOf history := by
  unfold typesOf
  rw [List.filterMap_cons]
  cases done.1.type? <;> rfl

/-- A registry in which some types are registered: every adapter is of one of them and is what it
compiles to, and they are numbered as they were compiled. -/
structure Settled (types : List Mapping) (registry : Registry) : Prop where
  coherent : registry.Coherent
  distinct : (registry.registered.map Mapping.path).Nodup
  registered : ∀ mapping, mapping ∈ registry.registered ↔ mapping ∈ types
  numbered : registry.compiled.map Instance.number = List.range registry.compiled.length

namespace Settled

theorem find?_of_mem (settled : registry.Settled types) (member : mapping ∈ types) :
    registry.find? mapping.path = some mapping :=
  Registry.find?_of_mem settled.distinct ((settled.registered mapping).mpr member)

theorem find?_eq_none (settled : registry.Settled types) {path : String} :
    registry.find? path = none ↔ ∀ mapping ∈ types, mapping.path ≠ path := by
  unfold find?
  rw [List.find?_eq_none]
  simp only [settled.registered, beq_iff_eq, ne_eq]

/-- Registering a type adds it, if it is not there. -/
theorem register (settled : registry.Settled types) (one : OneEach (types ++ [mapping])) :
    (Registry.register mapping registry).2.Settled (types ++ [mapping]) := by
  have coherent := settled.coherent.register mapping
  rw [register_run] at coherent ⊢
  cases known : registry.find? mapping.path with
  | some other =>
    -- the type of that path is this one
    have member := (settled.registered other).mp (List.mem_of_find?_eq_some known)
    obtain rfl : other = mapping := one other (List.mem_append_left _ member) mapping
      (by simp) (path_of_find? known)
    refine ⟨settled.coherent, settled.distinct, fun type => ?_, settled.numbered⟩
    show type ∈ registry.registered ↔ _
    rw [settled.registered, List.mem_append, List.mem_singleton]
    exact ⟨.inl, fun either => either.elim id (· ▸ member)⟩
  | none =>
    rw [known] at coherent
    refine ⟨coherent, ?_, fun type => ?_, settled.numbered⟩
    · show ((registry.registered ++ [mapping]).map Mapping.path).Nodup
      rw [List.map_append, List.map_singleton, List.nodup_append]
      refine ⟨settled.distinct, List.nodup_singleton _, ?_⟩
      intro path among other same
      obtain ⟨type, member, rfl⟩ := List.mem_map.mp among
      rw [List.mem_singleton.mp same]
      exact settled.find?_eq_none.mp known type ((settled.registered type).mp member)
    · show type ∈ registry.registered ++ [mapping] ↔ _
      rw [List.mem_append, settled.registered, List.mem_append]

/-- Asking for an adapter registers nothing. -/
theorem adapter (settled : registry.Settled types) (path : String) :
    Settled types (Registry.adapter path registry).2 := by
  have coherent := settled.coherent.adapter path
  rcases adapter_after path registry with same | ⟨made, -, -, number, grown⟩
  · rw [same]
    exact settled
  · rw [grown] at coherent ⊢
    refine ⟨coherent, settled.distinct, settled.registered, ?_⟩
    simp [settled.numbered, number, List.range_succ]

theorem of_same {others : List Mapping} (settled : registry.Settled types)
    (same : ∀ mapping, mapping ∈ types ↔ mapping ∈ others) : registry.Settled others :=
  ⟨settled.coherent, settled.distinct,
    fun mapping => (settled.registered mapping).trans (same mapping), settled.numbered⟩

/-- A registry is settled in whatever order it has its types. -/
theorem reorder {reordered : Registry} (settled : registry.Settled types)
    (same : reordered.registered.Perm registry.registered)
    (compiled : reordered.compiled = registry.compiled) : reordered.Settled types := by
  have distinct : (reordered.registered.map Mapping.path).Nodup :=
    (same.map Mapping.path).nodup_iff.mpr settled.distinct
  refine ⟨fun made member => ?_, distinct,
    fun type => same.mem_iff.trans (settled.registered type), compiled ▸ settled.numbered⟩
  obtain ⟨known, compiles⟩ := settled.coherent made (compiled ▸ member)
  exact ⟨Registry.find?_of_mem distinct (same.mem_iff.mpr (List.mem_of_find?_eq_some known)),
    compiles⟩

/-- The adapter of a registered type is there, unless the type does not compile. -/
theorem adapter_run (settled : registry.Settled types) (member : mapping ∈ types) :
    (∃ own, (Registry.adapter mapping.path registry).1 = .ok own ∧
        (Registry.adapter mapping.path registry).2.Owns mapping own) ∨
      ∃ fault, (Registry.adapter mapping.path registry).1 = .error (.schema fault) ∧
        mapping.compile = .error fault := by
  have known := settled.find?_of_mem member
  cases compiles : mapping.compile with
  | ok compiled =>
    obtain ⟨own, after, ran, owns, -⟩ := settled.coherent.adapter_run known ⟨compiled, compiles⟩
    rw [ran]
    exact .inl ⟨own, rfl, owns⟩
  | error fault =>
    have none : registry.compiled? mapping.path = none := by
      cases there : registry.compiled? mapping.path with
      | none => rfl
      | some made =>
        obtain ⟨registered, made⟩ := settled.coherent.of_compiled? there
        rw [known] at registered
        cases registered
        rw [compiles] at made
        cases made
    rw [adapter_eq, none, known]
    simp only [compiles]
    exact .inr ⟨fault, rfl, rfl⟩

/-- There is no adapter of a path that is not registered. -/
theorem adapter_unregistered (settled : registry.Settled types) {path : String}
    (apart : ∀ mapping ∈ types, mapping.path ≠ path) :
    (Registry.adapter path registry).1 = .error (.configuration (.unregistered path)) := by
  have unknown := settled.find?_eq_none.mpr apart
  have none : registry.compiled? path = none := by
    cases there : registry.compiled? path with
    | none => rfl
    | some made =>
      obtain ⟨registered, -⟩ := settled.coherent.of_compiled? there
      rw [unknown] at registered
      cases registered
  rw [adapter_eq, none, unknown]

/-- The adapters of several registered types are there, unless one does not compile; those that
were compiled before that one stay. -/
theorem mapM_adapter_run {mappings : List Mapping} (settled : registry.Settled types)
    (members : ∀ mapping ∈ mappings, mapping ∈ types) :
    ∃ outcome after, (mappings.mapM fun mapping => Registry.adapter mapping.path) registry =
        (outcome, after) ∧ registry.Grows after ∧ after.Settled types ∧
      ((∃ all, outcome = .ok all ∧ List.Forall₂ after.Owns mappings all) ∨
        ∃ mapping ∈ mappings, ∃ fault, outcome = .error (.schema fault) ∧
          mapping.compile = .error fault) := by
  induction mappings generalizing registry with
  | nil => exact ⟨_, _, rfl, .refl registry, settled, .inl ⟨[], rfl, .nil⟩⟩
  | cons mapping rest ih =>
    have grows := adapter_grows mapping.path registry
    have still := settled.adapter mapping.path
    have first := settled.adapter_run (members mapping List.mem_cons_self)
    rw [List.mapM_cons, Action.bind_run]
    rcases ran : Registry.adapter mapping.path registry with ⟨outcome, knowing⟩
    rw [ran] at grows still first
    rcases first with ⟨own, rfl, owns⟩ | ⟨fault, rfl, fails⟩
    · obtain ⟨outcome, after, behind, more, last, either⟩ :=
        ih still fun other among => members other (List.mem_cons_of_mem mapping among)
      simp only [Action.bind_run, behind]
      rcases either with ⟨all, rfl, each⟩ | ⟨other, among, fault, rfl, fails⟩
      · exact ⟨_, _, rfl, grows.trans more, last, .inl ⟨own :: all, rfl, .cons (more.owns owns) each⟩⟩
      · exact ⟨_, _, rfl, grows.trans more, last,
          .inr ⟨other, List.mem_cons_of_mem mapping among, fault, rfl, fails⟩⟩
    · exact ⟨_, _, rfl, grows, still, .inr ⟨mapping, List.mem_cons_self, fault, rfl, fails⟩⟩

end Settled

/-- The adapter of a type, if it has been compiled. -/
def own? (registry : Registry) (mapping : Mapping) : Option Instance :=
  registry.compiled? mapping.path

theorem Owns.own? {own : Instance} (owns : registry.Owns mapping own) :
    registry.own? own.mapping = some own := by
  rw [Registry.own?, owns.mapping_eq]
  exact owns.there

namespace Settled

/-- The adapters of all registered types are there, in the order of their tables, unless a type does
not compile. -/
theorem adapters_run (settled : registry.Settled types) :
    registry.Grows (adapters registry).2 ∧ (adapters registry).2.Settled types ∧
      ((∃ all, (adapters registry).1 = .ok all ∧
          RegistryCall.Lists (adapters registry).2.own? types all) ∨
        ∃ mapping ∈ types, ∃ fault, (adapters registry).1 = .error (.schema fault) ∧
          mapping.compile = .error fault) := by
  obtain ⟨outcome, after, ran, grows, still, either⟩ := settled.mapM_adapter_run
    fun mapping member => (settled.registered mapping).mp member
  have run : adapters registry = ((fun found => found.mergeSort Instance.tableLe) <$> outcome,
      after) := by
    show (do
      let found ← registry.registered.mapM fun mapping => Registry.adapter mapping.path
      return found.mergeSort Instance.tableLe : Action Registry (List Instance)) registry = _
    rw [Action.bind_run, ran]
    cases outcome <;> rfl
  rw [run]
  refine ⟨grows, still, ?_⟩
  rcases either with ⟨found, rfl, each⟩ | ⟨mapping, member, fault, rfl, fails⟩
  · have perm : (found.mergeSort Instance.tableLe).Perm found := List.mergeSort_perm _ _
    have mappings : found.map Instance.mapping = registry.registered := by
      have same := List.forall₂_map_right_iff.mpr (each.imp fun _ _ owns => owns.mapping_eq.symm)
      exact (List.forall₂_eq_eq_eq ▸ same : registry.registered = _).symm
    have whole : ((found.mergeSort Instance.tableLe).map Instance.mapping).Perm
        registry.registered := mappings ▸ perm.map Instance.mapping
    refine .inl ⟨_, rfl, ⟨fun own member => ?_, fun mapping => ?_, ?_, ?_⟩⟩
    · obtain ⟨mapping, -, owns⟩ := exists_left_of_mem each (perm.mem_iff.mp member)
      exact owns.own?
    · exact whole.mem_iff.trans (settled.registered mapping)
    · exact whole.nodup_iff.mpr (.of_map _ settled.distinct)
    · exact (Instance.pairwise_mergeSort_tableLe found).imp of_decide_eq_true
  · exact .inr ⟨mapping, (settled.registered mapping).mp member, fault, rfl, fails⟩

/-- A call gives an answer of the registered types, to which it adds the one that it registers. No
adapter is lost or replaced. -/
theorem perform (settled : registry.Settled types) (call : RegistryCall)
    (one : OneEach (types ++ call.type?.toList)) :
    (∀ mapping found, registry.own? mapping = some found →
        (call.perform registry).2.own? mapping = some found) ∧
      (call.perform registry).2.Settled (types ++ call.type?.toList) ∧
        call.Answers (call.perform registry).2.own? types (call.perform registry).1 := by
  have same : types ++ (none : Option Mapping).toList = types := List.append_nil types
  cases call with
  | register mapping =>
    refine ⟨fun other found owned => ?_, settled.register one, .register mapping⟩
    show (Registry.register mapping registry).2.own? other = some found
    rw [register_run]
    split <;> exact owned
  | isRegistered path =>
    refine ⟨fun _ _ owned => owned, same.symm ▸ settled, ?_⟩
    show RegistryCall.Answers _ _ _ (.ok (.registered (registry.find? path).isSome))
    cases known : registry.find? path with
    | none => exact .unknown (settled.find?_eq_none.mp known)
    | some mapping =>
      exact .known ((settled.registered mapping).mp (List.mem_of_find?_eq_some known))
        (path_of_find? known)
  | adapter path =>
    have grows := adapter_grows path registry
    have still := settled.adapter path
    have mapped : (RegistryCall.adapter path).perform registry =
        (.adapter <$> (Registry.adapter path registry).1,
          (Registry.adapter path registry).2) := Action.map_run _ _ registry
    rw [mapped]
    refine ⟨fun mapping found owned => grows.kept _ _ owned, same.symm ▸ still, ?_⟩
    cases known : registry.find? path with
    | none =>
      have apart := settled.find?_eq_none.mp known
      rw [settled.adapter_unregistered apart]
      exact .unregistered apart
    | some mapping =>
      have member := (settled.registered mapping).mp (List.mem_of_find?_eq_some known)
      obtain rfl := path_of_find? known
      rcases settled.adapter_run member with ⟨own, ran, owns⟩ | ⟨fault, ran, fails⟩
      · rw [ran]
        exact .adapter member rfl owns.there
      · rw [ran]
        exact .refused member rfl fails
  | adapters =>
    obtain ⟨grows, still, either⟩ := settled.adapters_run
    have mapped : RegistryCall.adapters.perform registry =
        (.adapters <$> (adapters registry).1, (adapters registry).2) :=
      Action.map_run _ _ registry
    rw [mapped]
    refine ⟨fun mapping found owned => grows.kept _ _ owned, same.symm ▸ still, ?_⟩
    rcases either with ⟨all, ran, lists⟩ | ⟨mapping, member, fault, ran, fails⟩
    · rw [ran]
      exact .adapters lists
    · rw [ran]
      exact .adaptersRefused member fails
  | findTable table =>
    obtain ⟨grows, still, either⟩ := settled.adapters_run
    have mapped : (RegistryCall.findTable table).perform registry =
        (.table <$> (findTable table registry).1, (findTable table registry).2) :=
      Action.map_run _ _ registry
    rw [mapped, findTable_eq]
    refine ⟨fun mapping found owned => grows.kept _ _ owned, same.symm ▸ still, ?_⟩
    rcases either with ⟨all, ran, lists⟩ | ⟨mapping, member, fault, ran, fails⟩
    · rw [ran]
      show RegistryCall.Answers _ _ _ (.ok (.table (all.find? fun found => found.table == table)))
      cases first : all.find? fun found => found.table == table with
      | none =>
        refine .noTable lists fun found member => ?_
        simpa using List.find?_eq_none.mp first found member
      | some found =>
        exact .table lists (List.mem_of_find?_eq_some first)
          (by simpa using List.find?_some first)
    · rw [ran]
      exact .tableRefused member fails

end Settled

variable {history others : List (RegistryCall × Except Error RegistryAnswer)}

/-- Every answer of a history is one of the types registered until then, and no adapter is lost or
replaced. -/
theorem Runs.answers (runs : registry.Runs history last) (settled : registry.Settled types)
    (one : OneEach (types ++ typesOf history)) :
    (∀ mapping found, registry.own? mapping = some found → last.own? mapping = some found) ∧
      last.Settled (types ++ typesOf history) ∧
        ∀ earlier call answer later, history = earlier ++ (call, answer) :: later →
          call.Answers last.own? (types ++ typesOf earlier) answer := by
  induction runs generalizing types with
  | nil registry =>
    refine ⟨fun _ _ owned => owned, ?_, fun earlier call answer later parts => ?_⟩
    · rwa [typesOf, List.filterMap_nil, List.append_nil]
    · exact absurd parts.symm (by simp)
  | reorder same compiled rest ih =>
    obtain ⟨kept, still, answers⟩ := ih (settled.reorder same compiled) one
    refine ⟨fun mapping found owned => kept mapping found ?_, still, answers⟩
    rwa [own?, compiled?, compiled]
  | @call registry last history call rest ih =>
    rw [typesOf_cons, ← List.append_assoc] at one ⊢
    obtain ⟨first, between, answered⟩ :=
      settled.perform call (one.of_subset (List.subset_append_left _ _))
    obtain ⟨kept, still, answers⟩ := ih between one
    refine ⟨fun mapping found owned => kept _ _ (first _ _ owned), still, ?_⟩
    intro earlier other answer later parts
    cases earlier with
    | nil =>
      cases parts
      rw [typesOf, List.filterMap_nil, List.append_nil]
      exact answered.mono kept
    | cons done earlier =>
      cases parts
      rw [typesOf_cons, ← List.append_assoc]
      exact answers earlier other answer later rfl

/-- Whatever is called, every adapter is of a type that is registered in the end. -/
theorem Settled.perform_registered (settled : registry.Settled registry.registered)
    (call : RegistryCall) :
    (call.perform registry).2.Settled (call.perform registry).2.registered := by
  have whole (one : OneEach (registry.registered ++ call.type?.toList)) :
      (call.perform registry).2.Settled (call.perform registry).2.registered := by
    obtain ⟨-, still, -⟩ := settled.perform call one
    exact still.of_same fun mapping => (still.registered mapping).symm
  have own : OneEach registry.registered := fun mapping member other among same =>
    List.inj_on_of_nodup_map settled.distinct member among same
  cases call with
  | register mapping =>
    cases known : registry.find? mapping.path with
    | some other =>
      -- nothing is registered, because the path has a type
      have same : ((RegistryCall.register mapping).perform registry).2 = registry := by
        show (Registry.register mapping registry).2 = registry
        rw [register_run, known]
        rfl
      rw [same]
      exact settled
    | none =>
      refine whole ?_
      have apart := settled.find?_eq_none.mp known
      intro first member second among same
      simp only [RegistryCall.type?, Option.toList_some, List.mem_append,
        List.mem_singleton] at member among
      rcases member with member | rfl
      · rcases among with among | rfl
        · exact own first member second among same
        · exact absurd same (apart first member)
      · rcases among with among | rfl
        · exact absurd same.symm (apart second among)
        · rfl
  | _ => exact whole (by simpa [RegistryCall.type?] using own)

/-- However a registry came about, its types have different paths and its adapters are what they
compile to. -/
theorem Runs.settled (runs : registry.Runs history last)
    (settled : registry.Settled registry.registered) : last.Settled last.registered := by
  induction runs with
  | nil registry => exact settled
  | reorder same compiled rest ih =>
    exact ih ((settled.reorder same compiled).of_same fun mapping => same.mem_iff.symm)
  | call call rest ih => exact ih (settled.perform_registered call)

theorem Settled.faithful (settled : registry.Settled types) :
    RegistryCall.Faithful registry.own? types := by
  intro mapping member found owned
  obtain ⟨known, compiles⟩ := settled.coherent.of_compiled? owned
  rw [settled.find?_of_mem member] at known
  cases known
  exact ⟨rfl, compiles⟩

/-- Two registries with the same types give answers that tell the same. -/
theorem Settled.alike {other : Registry} (settled : registry.Settled types)
    (further : other.Settled types) (one : OneEach types) (call : RegistryCall) :
    call.Alike (call.perform registry).1 (call.perform other).1 := by
  have whole : call.type? = none → call.Alike (call.perform registry).1 (call.perform other).1 := by
    intro none
    have still : OneEach (types ++ call.type?.toList) := by simpa [none] using one
    obtain ⟨-, after, answers⟩ := settled.perform call still
    obtain ⟨-, later, again⟩ := further.perform call still
    rw [none, Option.toList_none, List.append_nil] at after later
    exact answers.alike one after.faithful later.faithful again
  cases call with
  | register mapping => exact .same _ _
  | _ => exact whole rfl

end Registry

end EntityTables
