/-
# EntityTables.Sql.Statement — what SQL text asks for

The statements that a database carries out, with what still varies left open: a condition is about
columns of some kind, by name or found, and about operands of some kind, with or without
placeholders.

* `Condition`, `Statement` — with `operands`, in the order in which the text has them.
* `Statement.bind` — every placeholder replaced by the next of some cells.
-/
import EntityTables.Schema.Storage
import EntityTables.Sql.Cell

namespace EntityTables.Sql

set_option autoImplicit false

/-- How a column is compared with an operand. -/
inductive Comparison where
  | equal
  | different
  | less
  | lessEqual
  | greater
  | greaterEqual
  deriving DecidableEq, Inhabited

/-- Whether a comparison holds of two cells in a certain order. -/
def Comparison.holds : Comparison → Ordering → Bool
  | equal, order => order == .eq
  | different, order => order != .eq
  | less, order => order == .lt
  | lessEqual, order => order != .gt
  | greater, order => order == .gt
  | greaterEqual, order => order != .lt

/-- What a row has to meet. -/
inductive Condition (κ α : Type) where
  | compare (column : κ) (comparison : Comparison) (operand : α)
  | isNull (column : κ)
  | isNotNull (column : κ)
  | and (left right : Condition κ α)
  | or (left right : Condition κ α)
  deriving DecidableEq, Inhabited

namespace Condition

variable {κ μ α β : Type} {m : Type → Type} [Monad m]

/-- Replaces columns and operands, from left to right. -/
def replace (onColumn : κ → m μ) (onOperand : α → m β) : Condition κ α → m (Condition μ β)
  | compare column comparison operand => do
    return compare (← onColumn column) comparison (← onOperand operand)
  | isNull column => do return isNull (← onColumn column)
  | isNotNull column => do return isNotNull (← onColumn column)
  | and left right => do
    return and (← left.replace onColumn onOperand) (← right.replace onColumn onOperand)
  | or left right => do
    return or (← left.replace onColumn onOperand) (← right.replace onColumn onOperand)

/-- The operands, from left to right. -/
def operands : Condition κ α → List α
  | compare _ _ operand => [operand]
  | isNull _ | isNotNull _ => []
  | and left right | or left right => left.operands ++ right.operands

end Condition

/-- A column as the text names it, between quotes or not. -/
structure ColumnName where
  name : String
  quoted : Bool
  deriving DecidableEq, Inhabited

/-- A column by which rows are put in order. -/
structure SortKey (κ : Type) where
  column : κ
  descending : Bool
  deriving DecidableEq, Inhabited

/-- A table as it is created: its identity comes first. -/
structure TableDefinition where
  name : String
  identity : String
  columns : List (String × Storage)
  deriving DecidableEq, Inhabited

/-- What a statement gives as a value. -/
inductive Operand where
  | placeholder
  | literal (cell : Cell)
  deriving DecidableEq, Inhabited

/-- What SQL text asks for. -/
inductive Statement (α : Type) where
  /-- Creates a table, whose name the text spells in some way. -/
  | createTable (spelling : String) (definition : TableDefinition)
  /-- Removes a table if it exists. -/
  | dropTable (table : String)
  | insert (table : String) (values : List (String × α))
  | update (table : String) (assignments : List (String × α))
      (condition? : Option (Condition ColumnName α))
  | delete (table : String) (condition? : Option (Condition ColumnName α))
  /-- Finds rows: some columns, or all if none is named. -/
  | select (columns : List ColumnName) (table : String)
      (condition? : Option (Condition ColumnName α)) (order : List (SortKey ColumnName))
  deriving DecidableEq, Inhabited

namespace Statement

variable {α β : Type} {m : Type → Type} [Monad m]

/-- Replaces the operands of values for columns. -/
def replaceValues (f : α → m β) (values : List (String × α)) : m (List (String × β)) :=
  values.mapM fun (column, operand) => do return (column, ← f operand)

/-- Replaces the operands of a condition, if there is one. -/
def replaceCondition (f : α → m β) :
    Option (Condition ColumnName α) → m (Option (Condition ColumnName β))
  | none => return none
  | some condition => do return some (← condition.replace pure f)

/-- Replaces the operands, in the order in which the text has them. -/
def replace (f : α → m β) : Statement α → m (Statement β)
  | createTable spelling definition => return createTable spelling definition
  | dropTable table => return dropTable table
  | insert table values => do return insert table (← replaceValues f values)
  | update table assignments condition? => do
    return update table (← replaceValues f assignments) (← replaceCondition f condition?)
  | delete table condition? => do return delete table (← replaceCondition f condition?)
  | select columns table condition? order => do
    return select columns table (← replaceCondition f condition?) order

/-- The operands of a condition, if there is one. -/
def conditionOperands : Option (Condition ColumnName α) → List α
  | none => []
  | some condition => condition.operands

/-- The operands, in the order in which the text has them. -/
def operands : Statement α → List α
  | createTable _ _ | dropTable _ => []
  | insert _ values => values.map Prod.snd
  | update _ assignments condition? =>
    assignments.map Prod.snd ++ conditionOperands condition?
  | delete _ condition? | select _ _ condition? _ => conditionOperands condition?

/-- How many placeholders a statement has. -/
def placeholders (statement : Statement Operand) : Nat :=
  statement.operands.countP fun operand => operand = .placeholder

/-- The cell of an operand: a placeholder takes the next of the given ones. -/
def takeCell : Operand → StateM (List Cell) Cell
  | .literal cell => return cell
  | .placeholder => modifyGet fun cells => (cells.headD .null, cells.tail)

/-- Replaces every placeholder by the next of some cells, and by the empty cell where they end. -/
def bind (statement : Statement Operand) (cells : List Cell) : Statement Cell :=
  (statement.replace takeCell |>.run cells).1

end Statement

end EntityTables.Sql
