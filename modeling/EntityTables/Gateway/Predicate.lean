/-
# EntityTables.Gateway.Predicate — which rows a statement is about

A predicate is either met by every row, or a clause of SQL text with `?` placeholders and the values
bound to them, in the order of the placeholders. The text is the caller's; nothing looks into it
until the storage does.

* `Predicate.columnEquals`, `byIdentity`, `and`; `whereText` — the predicate at the end of a
  statement.
-/
import EntityTables.Sql.Name
import EntityTables.Value.Basic

namespace EntityTables

set_option autoImplicit false

/-- Which rows a statement is about. -/
inductive Predicate where
  | all
  /-- The rows that meet a clause with values bound to its placeholders. -/
  | clause (text : String) (args : List Value)
  deriving DecidableEq, Inhabited

namespace Predicate

/-- The rows whose column has a value. -/
def columnEquals (column : String) (value : Value) : Predicate :=
  clause (Sql.quoteName column ++ " = ?") [value]

/-- The row of an identity. -/
def byIdentity (column : String) (identity : Int64) : Predicate :=
  columnEquals column (.integer identity)

/-- The clause, if there is one. -/
def text? : Predicate → Option String
  | all => none
  | clause text _ => some text

/-- The values bound to the placeholders. -/
def args : Predicate → List Value
  | all => []
  | clause _ args => args

/-- The rows that meet both predicates. -/
def and : Predicate → Predicate → Predicate
  | all, right => right
  | left, all => left
  | clause left before, clause right behind =>
    clause ("(" ++ left ++ ") AND (" ++ right ++ ")") (before ++ behind)

/-- The predicate as it ends a statement. -/
def whereText : Predicate → String
  | all => ""
  | clause text _ => " WHERE " ++ text

@[simp] theorem all_and (p : Predicate) : all.and p = p := by cases p <;> rfl

theorem args_and (p q : Predicate) : (p.and q).args = p.args ++ q.args := by
  cases p <;> cases q <;> simp [and, args]

end Predicate

end EntityTables
