/-
# EntityTables.Proofs.Dispatcher.Ledger — the keyed store that typed operations amount to

What the operations on the records of a child type come to when tables are left out of it. A record
is entered under the identity after the last one given, its fields are overwritten or it is struck
out by that identity, and the entries stand in the order in which they were made. The parent of an
entry is never changed.

* `Ledger.add`, `Ledger.addAll`, `Ledger.write`, `Ledger.strike` — the operations on a ledger.
* `Call` — an operation on a session, `Call.run`; `Ledger.step` — the same on a ledger.
* `Ledger.Sound` — identities are given in ascending order; `Sound.step`, `answers_ascending`.
-/
import EntityTables.Dispatcher
import EntityTables.Gateway.Connection
import EntityTables.Proofs.Database.Rows

namespace EntityTables.Dispatcher

set_option autoImplicit false

variable {objects : Objects} {entity : EntityType objects}

/-! ## Ledgers -/

/-- A record as it was entered: its identity, the parent it was entered for, and its fields. -/
structure Entry (entity : EntityType objects) where
  identity : Int64
  parent? : Option Int64
  fields : Fields entity.layout

/-- The record of an entry, its identity set. -/
def Entry.record (entry : Entry entity) : entity.Record := ⟨entry.identity, entry.fields⟩

/-- The entries that are there, in the order in which they were made, and all identities given so
far. -/
structure Ledger (entity : EntityType objects) where
  entries : List (Entry entity)
  given : List Int64

namespace Ledger

/-- No identity has been given. -/
def empty : Ledger entity := ⟨[], []⟩

/-- The identity that was given last. -/
def last (ledger : Ledger entity) : Int64 := ledger.given.getLast?.getD 0

/-- The next identity, as long as there is one. -/
def fresh (ledger : Ledger entity) : Except Error Int64 :=
  if ledger.last = Int64.maxValue then .error (.ofSql .full) else .ok (ledger.last + 1)

/-- Enters a record, unless it is refused: the identity it is given. -/
def add (ledger : Ledger entity) (parent? : Option Int64) (record : entity.Record) :
    Except Error (Int64 × Ledger entity) :=
  match entity.encode record, ledger.fresh with
  | .error fault, _ => .error fault
  | .ok _, .error fault => .error fault
  | .ok _, .ok identity =>
    .ok (identity, ⟨ledger.entries ++ [⟨identity, parent?, record.fields⟩],
      ledger.given ++ [identity]⟩)

/-- Enters records, all or none. -/
def addAll (ledger : Ledger entity) : List entity.Record → Except Error (Ledger entity)
  | [] => .ok ledger
  | record :: rest =>
    match ledger.add none record with
    | .error fault => .error fault
    | .ok (_, grown) => grown.addAll rest

/-- Overwrites the fields of the entry that has a record's identity. -/
def write (ledger : Ledger entity) (record : entity.Record) : Ledger entity :=
  { ledger with
    entries := ledger.entries.map fun entry =>
      if entry.identity = record.identity then { entry with fields := record.fields } else entry }

/-- Strikes out the entry of an identity. -/
def strike (ledger : Ledger entity) (identity : Int64) : Ledger entity :=
  { ledger with entries := ledger.entries.filter fun entry => decide (entry.identity ≠ identity) }

/-- How many entries have an identity. -/
def countOf (ledger : Ledger entity) (identity : Int64) : Nat :=
  (ledger.entries.filter fun entry => decide (entry.identity = identity)).length

/-- The entry of an identity. -/
def find? (ledger : Ledger entity) (identity : Int64) : Option (Entry entity) :=
  ledger.entries.find? fun entry => decide (entry.identity = identity)

/-- The entries that were made for a parent. -/
def children (ledger : Ledger entity) (parent : Int64) : List (Entry entity) :=
  ledger.entries.filter fun entry => decide (entry.parent? = some parent)

end Ledger

/-! ## Calls -/

/-- What a call gives: the identity of a new record, or how many records it was about. -/
inductive Answer where
  | made (identity : Int64)
  | counted (count : Nat)

/-- The identity that was given, if one was. -/
def Answer.given? : Except Error Answer → Option Int64
  | .ok (.made identity) => some identity
  | _ => none

/-- The operations that write records of a child type. -/
inductive Call (entity : EntityType objects) where
  | insert (record : entity.Record)
  | insertAll (records : List entity.Record)
  | insertChild (parent : Int64) (record : entity.Record)
  | updateEntity (record : entity.Record)
  | delete (identity : Int64)

namespace Call

/-- The records that a call writes. -/
def records : Call entity → List entity.Record
  | insert record | insertChild _ record | updateEntity record => [record]
  | insertAll records => records
  | delete _ => []

/-- The identity that a call names. -/
def named? : Call entity → Option Int64
  | updateEntity record => some record.identity
  | delete identity => some identity
  | _ => none

/-- Carries out a call. -/
def run : Call entity → Action (Session Connection) Answer
  | insert record => return .made (← Dispatcher.insert entity record)
  | insertAll records => return .counted (← Dispatcher.insertAll entity records)
  | insertChild parent record => return .made (← Dispatcher.insertChild entity parent record)
  | updateEntity record => return .counted (← Dispatcher.updateEntity entity record)
  | delete identity =>
    return .counted (← Dispatcher.delete entity.path (.byIdentity entity.code.identity identity))

/-- Carries out calls one after the other, whether they fail or not. -/
def runAll : List (Call entity) → Session Connection → List (Except Error Answer) × Session Connection
  | [], session => ([], session)
  | call :: rest, session =>
    let (answer, after) := call.run session
    let (answers, last) := runAll rest after
    (answer :: answers, last)

end Call

namespace Ledger

/-- Enters a record if it can be: the identity it is given. -/
def enter (ledger : Ledger entity) (parent? : Option Int64) (record : entity.Record) :
    Except Error Answer × Ledger entity :=
  match ledger.add parent? record with
  | .error fault => (.error fault, ledger)
  | .ok (identity, grown) => (.ok (.made identity), grown)

/-- Enters records if all of them can be and no transaction is open: how many there are. -/
def enterAll (busy : Bool) (ledger : Ledger entity) (records : List entity.Record) :
    Except Error Answer × Ledger entity :=
  if busy then (.error (.ofSql .nestedTransaction), ledger)
  else
    match ledger.addAll records with
    | .error fault => (.error fault, ledger)
    | .ok grown => (.ok (.counted records.length), grown)

/-- Overwrites an entry with a record that is not refused: how many entries there were. A record
without columns is not looked for. -/
def overwrite (ledger : Ledger entity) (record : entity.Record) :
    Except Error Answer × Ledger entity :=
  match entity.encode record with
  | .error fault => (.error fault, ledger)
  | .ok values =>
    (.ok (.counted (if values.isEmpty then 0 else ledger.countOf record.identity)),
      ledger.write record)

/-- What a call does to a ledger, and what it gives; `busy` says whether a transaction is open, so
that no other can be opened for records that count as a whole. -/
def step (busy : Bool) (ledger : Ledger entity) :
    Call entity → Except Error Answer × Ledger entity
  | .insert record => ledger.enter none record
  | .insertAll records => ledger.enterAll busy records
  | .insertChild parent record => ledger.enter (some parent) record
  | .updateEntity record => ledger.overwrite record
  | .delete identity => (.ok (.counted (ledger.countOf identity)), ledger.strike identity)

/-- What calls do to a ledger one after the other, and what each gives. -/
def runAll (busy : Bool) : Ledger entity → List (Call entity) →
    List (Except Error Answer) × Ledger entity
  | ledger, [] => ([], ledger)
  | ledger, call :: rest =>
    let (answer, after) := ledger.step busy call
    let (answers, last) := runAll busy after rest
    (answer :: answers, last)

theorem runAll_cons (busy : Bool) (ledger : Ledger entity) (call : Call entity)
    (rest : List (Call entity)) :
    ledger.runAll busy (call :: rest) =
      ((ledger.step busy call).1 :: ((ledger.step busy call).2.runAll busy rest).1,
        ((ledger.step busy call).2.runAll busy rest).2) := rfl

/-! ## Identities -/

/-- Identities were given in ascending order, and the entries stand in the order of theirs. -/
structure Sound (ledger : Ledger entity) : Prop where
  given : ledger.given.Pairwise (· < ·)
  entries : (ledger.entries.map Entry.identity).Sublist ledger.given

theorem sound_empty : Sound (Ledger.empty : Ledger entity) := ⟨.nil, List.Sublist.slnil⟩

variable {ledger grown : Ledger entity}

theorem Sound.ascending (sound : ledger.Sound) :
    (ledger.entries.map Entry.identity).Pairwise (· < ·) :=
  sound.given.sublist sound.entries

theorem Sound.le_last (sound : ledger.Sound) {identity : Int64}
    (member : identity ∈ ledger.given) : identity ≤ ledger.last := by
  obtain ⟨before, final, whole⟩ :=
    (List.eq_nil_or_concat ledger.given).resolve_left (List.ne_nil_of_mem member)
  have ascending := sound.given
  rw [whole, List.concat_eq_append] at member ascending
  have last : ledger.last = final := by simp [Ledger.last, whole]
  rw [last]
  rcases List.mem_append.mp member with earlier | same
  · exact Int64.le_of_lt ((List.pairwise_append.mp ascending).2.2 identity earlier final
      List.mem_cons_self)
  · rw [List.mem_singleton.mp same]
    exact Int64.le_refl final

/-- A fresh identity is above all that were given. -/
theorem Sound.lt_fresh (sound : ledger.Sound) {identity : Int64}
    (fresh : ledger.fresh = .ok identity) {other : Int64} (member : other ∈ ledger.given) :
    other < identity := by
  unfold Ledger.fresh at fresh
  split at fresh
  · cases fresh
  · next room =>
    cases fresh
    exact Int64.lt_of_le_of_lt (sound.le_last member) (Database.lt_add_one room)

/-- What a record was entered as. -/
theorem add_eq_ok_iff {parent? : Option Int64} {record : entity.Record} {identity : Int64} :
    ledger.add parent? record = .ok (identity, grown) ↔
      (∃ values, entity.encode record = .ok values) ∧ ledger.fresh = .ok identity ∧
        grown = ⟨ledger.entries ++ [⟨identity, parent?, record.fields⟩],
          ledger.given ++ [identity]⟩ := by
  unfold add
  cases entity.encode record with
  | error fault => simp
  | ok values =>
    cases ledger.fresh with
    | error fault => simp
    | ok next =>
      simp only [Except.ok.injEq, Prod.mk.injEq, exists_eq', true_and]
      constructor
      · rintro ⟨rfl, rfl⟩
        exact ⟨rfl, rfl⟩
      · rintro ⟨rfl, rfl⟩
        exact ⟨rfl, rfl⟩

theorem Sound.add (sound : ledger.Sound) {parent? : Option Int64} {record : entity.Record}
    {identity : Int64} (added : ledger.add parent? record = .ok (identity, grown)) :
    grown.Sound := by
  obtain ⟨-, fresh, rfl⟩ := add_eq_ok_iff.mp added
  refine ⟨?_, ?_⟩
  · refine List.pairwise_append.mpr ⟨sound.given, List.pairwise_singleton _ _, ?_⟩
    intro other member next single
    rw [List.mem_singleton.mp single]
    exact sound.lt_fresh fresh member
  · rw [List.map_append]
    exact sound.entries.append (List.Sublist.refl _)

/-- Records that were entered were entered one after the other. -/
theorem addAll_cons_eq_ok_iff {record : entity.Record} {rest : List entity.Record} :
    ledger.addAll (record :: rest) = .ok grown ↔
      ∃ identity between, ledger.add none record = .ok (identity, between) ∧
        between.addAll rest = .ok grown := by
  rw [Ledger.addAll]
  cases ledger.add none record with
  | error fault => simp
  | ok made => simp [Prod.ext_iff]

theorem Sound.addAll (sound : ledger.Sound) {records : List entity.Record}
    (added : ledger.addAll records = .ok grown) : grown.Sound := by
  induction records generalizing ledger with
  | nil =>
    cases added
    exact sound
  | cons record rest ih =>
    obtain ⟨identity, between, first, behind⟩ := addAll_cons_eq_ok_iff.mp added
    exact ih (sound.add first) behind

theorem Sound.write (sound : ledger.Sound) (record : entity.Record) :
    (ledger.write record).Sound := by
  have identities : (ledger.write record).entries.map Entry.identity =
      ledger.entries.map Entry.identity := by
    unfold Ledger.write
    rw [List.map_map]
    refine List.map_congr_left fun entry _ => ?_
    simp only [Function.comp_apply]
    split <;> rfl
  exact ⟨sound.given, identities ▸ sound.entries⟩

theorem Sound.strike (sound : ledger.Sound) (identity : Int64) :
    (ledger.strike identity).Sound :=
  ⟨sound.given, (List.filter_sublist.map Entry.identity).trans sound.entries⟩

theorem Sound.enter (sound : ledger.Sound) (parent? : Option Int64) (record : entity.Record) :
    (ledger.enter parent? record).2.Sound := by
  unfold Ledger.enter
  cases added : ledger.add parent? record with
  | error fault => exact sound
  | ok made => exact sound.add added

theorem Sound.enterAll (sound : ledger.Sound) (busy : Bool) (records : List entity.Record) :
    (ledger.enterAll busy records).2.Sound := by
  unfold Ledger.enterAll
  cases busy with
  | true => exact sound
  | false =>
    cases added : ledger.addAll records with
    | error fault => exact sound
    | ok grown => exact sound.addAll added

theorem Sound.overwrite (sound : ledger.Sound) (record : entity.Record) :
    (ledger.overwrite record).2.Sound := by
  unfold Ledger.overwrite
  cases entity.encode record with
  | error fault => exact sound
  | ok values => exact sound.write record

/-- A call keeps the invariant. -/
theorem Sound.step (sound : ledger.Sound) (busy : Bool) (call : Call entity) :
    (ledger.step busy call).2.Sound := by
  cases call with
  | insert record => exact sound.enter none record
  | insertAll records => exact sound.enterAll busy records
  | insertChild parent record => exact sound.enter (some parent) record
  | updateEntity record => exact sound.overwrite record
  | delete identity => exact sound.strike identity

theorem Sound.runAll (sound : ledger.Sound) (busy : Bool) (calls : List (Call entity)) :
    (ledger.runAll busy calls).2.Sound := by
  induction calls generalizing ledger with
  | nil => exact sound
  | cons call rest ih => exact ih (sound.step busy call)

theorem addAll_given {records : List entity.Record} (added : ledger.addAll records = .ok grown) :
    ∃ new, grown.given = ledger.given ++ new := by
  induction records generalizing ledger with
  | nil =>
    cases added
    exact ⟨[], (List.append_nil _).symm⟩
  | cons record rest ih =>
    obtain ⟨identity, between, first, behind⟩ := addAll_cons_eq_ok_iff.mp added
    obtain ⟨-, -, rfl⟩ := add_eq_ok_iff.mp first
    obtain ⟨new, whole⟩ := ih behind
    refine ⟨identity :: new, ?_⟩
    rw [whole, List.append_assoc]
    rfl

theorem enter_given (ledger : Ledger entity) (parent? : Option Int64) (record : entity.Record) :
    ∃ new, (ledger.enter parent? record).2.given = ledger.given ++ new ∧
      (Answer.given? (ledger.enter parent? record).1).toList.Sublist new := by
  unfold Ledger.enter
  cases added : ledger.add parent? record with
  | error fault => exact ⟨[], (List.append_nil _).symm, List.Sublist.slnil⟩
  | ok made =>
    obtain ⟨-, -, same⟩ := add_eq_ok_iff.mp added
    refine ⟨[made.1], ?_, List.Sublist.refl _⟩
    show made.2.given = _
    rw [same]

/-- A call gives identities behind those given before; one that it answers is among them. -/
theorem step_given (busy : Bool) (ledger : Ledger entity) (call : Call entity) :
    ∃ new, (ledger.step busy call).2.given = ledger.given ++ new ∧
      (Answer.given? (ledger.step busy call).1).toList.Sublist new := by
  have kept : ledger.given = ledger.given ++ [] := (List.append_nil _).symm
  cases call with
  | insert record => exact enter_given ledger none record
  | insertAll records =>
    rw [Ledger.step, enterAll]
    split
    · exact ⟨[], kept, List.Sublist.slnil⟩
    · cases added : ledger.addAll records with
      | error fault => exact ⟨[], kept, List.Sublist.slnil⟩
      | ok grown =>
        obtain ⟨new, whole⟩ := addAll_given added
        exact ⟨new, whole, List.nil_sublist new⟩
  | insertChild parent record => exact enter_given ledger (some parent) record
  | updateEntity record =>
    rw [Ledger.step, overwrite]
    cases entity.encode record with
    | error fault => exact ⟨[], kept, List.Sublist.slnil⟩
    | ok values => exact ⟨[], kept, List.Sublist.slnil⟩
  | delete identity => exact ⟨[], kept, List.Sublist.slnil⟩

/-- The identities that calls answer are among those given, in the same order. -/
theorem runAll_given (busy : Bool) (ledger : Ledger entity) (calls : List (Call entity)) :
    ∃ new, (ledger.runAll busy calls).2.given = ledger.given ++ new ∧
      ((ledger.runAll busy calls).1.filterMap Answer.given?).Sublist new := by
  induction calls generalizing ledger with
  | nil => exact ⟨[], (List.append_nil _).symm, List.Sublist.slnil⟩
  | cons call rest ih =>
    obtain ⟨first, grown, answered⟩ := step_given busy ledger call
    obtain ⟨others, whole, behind⟩ := ih (ledger.step busy call).2
    rw [runAll_cons]
    refine ⟨first ++ others, ?_, ?_⟩
    · rw [whole, grown, List.append_assoc]
    · have answers (answer : Except Error Answer) (answers : List (Except Error Answer)) :
          (answer :: answers).filterMap Answer.given? =
            (Answer.given? answer).toList ++ answers.filterMap Answer.given? := by
        rw [List.filterMap_cons]
        cases Answer.given? answer <;> rfl
      rw [answers]
      exact answered.append behind

/-- Every identity that a call answers is above all that were answered before. -/
theorem answers_ascending (busy : Bool) (calls : List (Call entity)) :
    (((Ledger.empty : Ledger entity).runAll busy calls).1.filterMap Answer.given?).Pairwise
      (· < ·) := by
  obtain ⟨new, whole, answered⟩ := runAll_given busy (Ledger.empty : Ledger entity) calls
  have given := (sound_empty.runAll busy calls).given
  rw [whole] at given
  exact given.sublist answered

end Ledger

end EntityTables.Dispatcher
