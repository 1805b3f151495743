/-
# EntityTables.Gateway.Basic — what the rest of the library asks of a storage

A gateway runs statements on a storage and takes rows in and out of its tables. What it does may
change the storage and fail; a transaction takes back what its work has changed if the work fails.

* `Action` — a step on a state, with its failures; the state of a failed step is kept.
* `Gateway` — the operations of a storage; `Gateway.transaction` — work that counts as a whole or
  not at all.
-/
import EntityTables.Gateway.Predicate
import EntityTables.Value.Row

namespace EntityTables

set_option autoImplicit false

/-- A step that reads and changes a state and may fail. -/
abbrev Action (σ α : Type) := ExceptT Error (StateM σ) α

/-- A step on a part of a state; the rest stays as it is. -/
def Action.within {σ τ α : Type} (part : τ → σ) (replace : τ → σ → τ) (action : Action σ α) :
    Action τ α := fun whole =>
  match action (part whole) with
  | (outcome, after) => (outcome, replace whole after)

/-- A value that may be missing because of a failure, as a step. -/
def Action.ofExcept {σ α : Type} : Except Error α → Action σ α
  | .ok a => pure a
  | .error fault => throw fault

/-- The operations of a storage. -/
class Gateway (σ : Type) where
  /-- Runs a statement that gives no rows. -/
  execute : String → Action σ Unit
  /-- Adds a row to a table: its identity. -/
  insertRow : String → RowValues → Action σ Int64
  /-- Changes the rows that meet a predicate: how many there are. -/
  updateRows : String → RowValues → Predicate → Action σ Nat
  /-- Removes the rows that meet a predicate: how many there are. -/
  deleteRows : String → Predicate → Action σ Nat
  /-- Some columns, or all if none is named, of the rows that meet a predicate, perhaps in a given
  order. -/
  queryRows : String → List String → Predicate → Option String → Action σ (List Row)
  /-- The rows that a statement gives, with values bound to its placeholders. -/
  rawQuery : String → List Value → Action σ (List Row)
  /-- Opens a transaction. -/
  openTransaction : Action σ Unit
  /-- Ends the open transaction and keeps what was done in it. -/
  commit : Action σ Unit
  /-- Ends the open transaction and takes back what was done in it. -/
  rollback : Action σ Unit

namespace Gateway

variable {σ α : Type} [Gateway σ]

/-- Does some work in a transaction; a failure takes back all of it. -/
def transaction (work : Action σ α) : Action σ α := do
  openTransaction
  try
    let result ← work
    commit
    return result
  catch fault =>
    rollback
    throw fault

end Gateway

end EntityTables
