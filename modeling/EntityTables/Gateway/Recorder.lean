/-
# EntityTables.Gateway.Recorder — a gateway that stores nothing

Notes the calls that are made on it and answers them from a queue of replies. Without a reply, a new
row gets one more than the last identity given out, a change counts one row, and nothing is found.

* `Call`, `Reply` — what is noted and what is answered; `Recorder` — the state.
-/
import EntityTables.Gateway.Basic

namespace EntityTables

set_option autoImplicit false

/-- A call on a gateway. -/
inductive Call where
  | execute (text : String)
  | insertRow (table : String) (values : RowValues)
  | updateRows (table : String) (values : RowValues) (predicate : Predicate)
  | deleteRows (table : String) (predicate : Predicate)
  | queryRows (table : String) (columns : List String) (predicate : Predicate)
      (order? : Option String)
  | rawQuery (text : String) (args : List Value)
  | openTransaction
  | commit
  | rollback

/-- What a call is answered with. -/
inductive Reply where
  | fail (text : String)
  | identity (identity : Int64)
  | count (count : Nat)
  | rows (rows : List Row)
  /-- Just as if there were no reply. -/
  | nothing

/-- The calls so far, the replies to come, and the last identity given out. -/
structure Recorder where
  calls : List Call
  replies : List Reply
  lastIdentity : Int64

namespace Recorder

/-- Nothing has happened yet. -/
def empty : Recorder := ⟨[], [], 0⟩

/-- Notes a call. -/
def note (call : Call) : Action Recorder Unit :=
  modify fun recorder => { recorder with calls := recorder.calls ++ [call] }

/-- Notes a call and takes its reply, if there is one; a reply may be a failure. -/
def answer? (call : Call) : Action Recorder (Option Reply) := do
  note call
  let recorder ← get
  match recorder.replies with
  | [] => return none
  | reply :: rest =>
    set { recorder with replies := rest }
    match reply with
    | .fail text => throw (.storage (.reported text))
    | reply => return some reply

/-- Notes a call that changes rows: how many it counts. -/
def count (call : Call) : Action Recorder Nat := do
  match ← answer? call with
  | some (.count count) => return count
  | _ => return 1

/-- Notes a call that finds rows: those it finds. -/
def rows (call : Call) : Action Recorder (List Row) := do
  match ← answer? call with
  | some (.rows rows) => return rows
  | _ => return []

/-- Notes a call that adds a row: its identity. -/
def identity (call : Call) : Action Recorder Int64 := do
  let given ← match ← answer? call with
    | some (.identity identity) => pure identity
    | _ => pure ((← get).lastIdentity + 1)
  modify fun recorder => { recorder with lastIdentity := given }
  return given

end Recorder

instance : Gateway Recorder where
  execute text := do let _ ← Recorder.answer? (.execute text)
  insertRow table values := Recorder.identity (.insertRow table values)
  updateRows table values predicate := Recorder.count (.updateRows table values predicate)
  deleteRows table predicate := Recorder.count (.deleteRows table predicate)
  queryRows table columns predicate order? :=
    Recorder.rows (.queryRows table columns predicate order?)
  rawQuery text args := Recorder.rows (.rawQuery text args)
  openTransaction := Recorder.note .openTransaction
  commit := Recorder.note .commit
  rollback := Recorder.note .rollback

end EntityTables
