/-
# EntityTables.Proofs.Gateway.Failure — steps that fail leave no trace

A step that fails may have looked things up and noted statements. What matters is that the rest of
the state is then what it was before: because nothing had been changed yet, or because it was taken
back.

* `Action.Keeps` — a step leaves a part of the state as it was; `Action.FailsClean` — it does so if
  it fails.
* `Connection.stored` — what a connection holds besides its notes.
* `insertRow_failsClean`, `updateRows_failsClean`, `deleteRows_failsClean` — single statements.
* `Session.transaction_eq`, `transaction_failsClean` — work of any length in a transaction.
* `Session.addEach` — rows added one after the other, which is work for a transaction.
-/
import EntityTables.Proofs.Gateway.Connection

namespace EntityTables

set_option autoImplicit false

/-! ## Steps that leave a part of the state alone -/

namespace Action

variable {σ τ α β γ : Type} {part : σ → γ}

/-- A step leaves a part of the state as it was. -/
def Keeps (part : σ → γ) (action : Action σ α) : Prop :=
  ∀ state, part (action state).2 = part state

/-- A step leaves a part of the state as it was if it fails. -/
def FailsClean (part : σ → γ) (action : Action σ α) : Prop :=
  ∀ state fault after, action state = (.error fault, after) → part after = part state

theorem Keeps.pure (a : α) : Keeps part (Pure.pure a : Action σ α) := fun _ => rfl

theorem Keeps.throw (fault : Error) : Keeps part (MonadExcept.throw fault : Action σ α) :=
  fun _ => rfl

theorem Keeps.ofExcept (outcome : Except Error α) : Keeps part (ofExcept outcome) := by
  cases outcome with
  | ok a => exact .pure a
  | error fault => exact .throw fault

theorem Keeps.bind {action : Action σ α} {next : α → Action σ β} (first : Keeps part action)
    (second : ∀ a, Keeps part (next a)) : Keeps part (action >>= next) := by
  intro state
  have begun := first state
  rcases ran : action state with ⟨fault | a, between⟩
  · rw [ran] at begun
    rw [bind_run, ran]
    exact begun
  · rw [ran] at begun
    rw [bind_run, ran]
    exact (second a between).trans begun

theorem Keeps.forM {step : α → Action σ PUnit} (each : ∀ a, Keeps part (step a))
    (list : List α) : Keeps part (list.forM step) := by
  induction list with
  | nil => exact .pure _
  | cons a rest ih => exact .bind (each a) fun _ => ih

theorem Keeps.failsClean {action : Action σ α} (keeps : Keeps part action) :
    FailsClean part action := by
  intro state fault after failed
  have same := keeps state
  rwa [failed] at same

/-- A failure counts only from where something may have been changed. -/
theorem FailsClean.bind {action : Action σ α} {next : α → Action σ β} (first : Keeps part action)
    (second : ∀ a, FailsClean part (next a)) : FailsClean part (action >>= next) := by
  intro state fault after failed
  have begun := first state
  rcases ran : action state with ⟨early | a, between⟩
  · rw [bind_run, ran] at failed
    rw [ran] at begun
    cases failed
    exact begun
  · rw [bind_run, ran] at failed
    rw [ran] at begun
    exact (second a between fault after failed).trans begun

/-- An answer made of what a step gives is no further step. -/
theorem FailsClean.answer {action : Action σ α} {next : α → Action σ β}
    (first : FailsClean part action) (total : ∀ a, ∃ b, next a = Pure.pure b) :
    FailsClean part (action >>= next) := by
  intro state fault after failed
  rw [bind_run] at failed
  rcases ran : action state with ⟨early | a, between⟩
  · rw [ran] at failed
    cases failed
    exact first state fault after ran
  · obtain ⟨b, same⟩ := total a
    rw [ran] at failed
    simp only [same] at failed
    cases failed

section Within

variable {field : τ → σ} {replace : τ → σ → τ} {action : Action σ α}
  (replaced : ∀ whole state, field (replace whole state) = state)

include replaced

theorem Keeps.within (keeps : Keeps part action) :
    Keeps (fun whole => part (field whole)) (within field replace action) := by
  intro whole
  have same := keeps (field whole)
  rw [within_run]
  simpa only [replaced] using same

theorem FailsClean.within (clean : FailsClean part action) :
    FailsClean (fun whole => part (field whole)) (within field replace action) := by
  intro whole fault after failed
  rw [within_run] at failed
  rcases ran : action (field whole) with ⟨outcome, state⟩
  rw [ran] at failed
  cases failed
  have same := clean (field whole) fault state ran
  simpa only [replaced] using same

end Within

end Action

open EntityTables.Action

/-! ## Single statements -/

namespace Connection

/-- What a connection holds besides its notes: its database, and the one to return to. -/
def stored (connection : Connection) : Database × Option Database :=
  (connection.database, connection.saved?)

theorem proceed_keeps (step : Database → Except Sql.Fault (Database.Outcome × Database)) :
    Keeps saved? (proceed step) := by
  intro connection
  rw [proceed_run]
  cases step connection.database <;> rfl

theorem proceed_failsClean (step : Database → Except Sql.Fault (Database.Outcome × Database)) :
    FailsClean stored (proceed step) := by
  intro connection fault after failed
  rw [proceed_run] at failed
  cases ran : step connection.database with
  | error early =>
    rw [ran] at failed
    cases failed
    rfl
  | ok made =>
    rw [ran] at failed
    cases failed

theorem run_keeps (text : String) (values : List Value) : Keeps saved? (run text values) := by
  refine .bind (fun _ => rfl) fun _ => ?_
  cases Sql.firstStatement? text with
  | none => exact .throw _
  | some statement => exact proceed_keeps _

theorem run_failsClean (text : String) (values : List Value) :
    FailsClean stored (run text values) := by
  refine .bind (fun _ => rfl) fun _ => ?_
  cases Sql.firstStatement? text with
  | none => exact (Keeps.throw _).failsClean
  | some statement => exact proceed_failsClean _

theorem identity_keeps (text : String) (values : List Value) :
    Keeps saved? (identity text values) := by
  refine .bind (run_keeps text values) fun outcome => ?_
  cases outcome <;> exact .pure _

theorem identity_failsClean (text : String) (values : List Value) :
    FailsClean stored (identity text values) := by
  refine (run_failsClean text values).answer fun outcome => ?_
  cases outcome <;> exact ⟨_, rfl⟩

/-- An addition leaves an open transaction open. -/
theorem insertRow_keeps (table : String) (values : RowValues) :
    Keeps saved? (Gateway.insertRow table values : Action Connection Int64) :=
  identity_keeps (insertText table values.columns) values.values

theorem insertRow_failsClean (table : String) (values : RowValues) :
    FailsClean stored (Gateway.insertRow table values : Action Connection Int64) :=
  identity_failsClean (insertText table values.columns) values.values

theorem count_failsClean (text : String) (values : List Value) :
    FailsClean stored (count text values) := by
  refine (run_failsClean text values).answer fun outcome => ?_
  cases outcome <;> exact ⟨_, rfl⟩

theorem updateRows_failsClean (table : String) (values : RowValues) (predicate : Predicate) :
    FailsClean stored (Gateway.updateRows table values predicate : Action Connection Nat) := by
  show FailsClean stored (if values.isEmpty then (pure 0 : Action Connection Nat)
    else count (updateText table values.columns predicate) (values.values ++ predicate.args))
  split
  · exact (Keeps.pure 0).failsClean
  · exact count_failsClean _ _

theorem deleteRows_failsClean (table : String) (predicate : Predicate) :
    FailsClean stored (Gateway.deleteRows table predicate : Action Connection Nat) :=
  count_failsClean (deleteText table predicate) predicate.args

end Connection

namespace Session

variable {α : Type}

/-- What the storage of a session holds. -/
def stored (session : Session Connection) : Database × Option Database := session.storage.stored

/-- What is done to the registry leaves the storage alone. -/
theorem onRegistry_keeps (action : Action Registry α) :
    Keeps stored (onRegistry action : Action (Session Connection) α) := fun _ => rfl

theorem onStorage_keeps {action : Action Connection α} (keeps : Keeps Connection.saved? action) :
    Keeps (fun session : Session Connection => session.storage.saved?) (onStorage action) :=
  keeps.within fun _ _ => rfl

theorem onStorage_failsClean {action : Action Connection α}
    (clean : FailsClean Connection.stored action) : FailsClean stored (onStorage action) :=
  clean.within fun _ _ => rfl

/-! ## Transactions -/

/-- A session in the middle of a transaction that has just begun. -/
def opened (session : Session Connection) : Session Connection :=
  { session with storage :=
    { session.storage with saved? := some session.storage.database } }

/-- A session after a transaction, with the database that is left of it. -/
def ended (session : Session Connection) (database : Database) : Session Connection :=
  { session with storage := { session.storage with database, saved? := none } }

section Transaction

variable {work : Action (Session Connection) α}
  (keeps : Keeps (fun session : Session Connection => session.storage.saved?) work)

include keeps

/-- Without an open transaction, work is kept if it succeeds, and otherwise the database is the one
of before; with one, there is no work. -/
theorem transaction_eq (session : Session Connection) :
    Gateway.transaction work session =
      match session.storage.saved? with
      | some _ => (.error (.ofSql .nestedTransaction), session)
      | none =>
        match work session.opened with
        | (.error fault, worked) => (.error fault, worked.ended session.storage.database)
        | (.ok a, worked) => (.ok a, worked.ended worked.storage.database) := by
  cases saved : session.storage.saved? with
  | some database =>
    exact Gateway.transaction_refused (onStorage_run (Connection.openTransaction_nested saved))
  | none =>
    have start : Gateway.openTransaction session = (.ok (), session.opened) :=
      onStorage_run (Connection.openTransaction_run saved)
    have still := keeps session.opened
    rcases ran : work session.opened with ⟨fault | a, worked⟩
    · rw [ran] at still
      exact Gateway.transaction_error start ran (onStorage_run (Connection.rollback_run still))
    · rw [ran] at still
      exact Gateway.transaction_ok start ran (onStorage_run (Connection.commit_run still))

theorem transaction_failsClean : FailsClean stored (Gateway.transaction work) := by
  intro session fault after failed
  rw [transaction_eq keeps] at failed
  cases saved : session.storage.saved? with
  | some database =>
    rw [saved] at failed
    cases failed
    rfl
  | none =>
    rw [saved] at failed
    rcases ran : work session.opened with ⟨early | a, worked⟩
    · rw [ran] at failed
      cases failed
      exact congrArg (Prod.mk session.storage.database) saved.symm
    · rw [ran] at failed
      cases failed

end Transaction

/-- Adds a row for each member of a list: how many there are. -/
def addEach (table : String) (values : α → Except Error RowValues) (list : List α) :
    Action (Session Connection) Nat := do
  list.forM fun a => do
    let values ← Action.ofExcept (values a)
    let _ ← Gateway.insertRow (σ := Session Connection) table values
  return list.length

/-- Work that adds one row after the other leaves an open transaction open. -/
theorem addEach_keeps (table : String) (values : α → Except Error RowValues) (list : List α) :
    Keeps (fun session : Session Connection => session.storage.saved?)
      (addEach table values list) := by
  refine .bind (.forM (fun a => ?_) list) fun _ => .pure _
  refine .bind (.ofExcept _) fun values => .bind ?_ fun _ => .pure _
  exact onStorage_keeps (Connection.insertRow_keeps table values)

end Session

end EntityTables
