/-
# EntityTables.Proofs.Sql.Conditions — conditions in parentheses, with AND between them

How deep conditions may be nested is bounded by the number of tokens, and more room changes nothing
of what is read. So a condition in parentheses is read as it is read by itself, and two of them with
AND between them are read as both.

* `Reading.Extends` — one reading makes whatever another makes; `disjunction_extends`.
* `TakesCondition.parens`, `TakesCondition.and` — conditions in parentheses.
* `Predicate.Joins` — predicates put together from equalities; `Joins.means` — the condition that
  they are.
-/
import EntityTables.Proofs.Sql.Statements

namespace EntityTables

set_option autoImplicit false

open Sql

namespace Sql

/-! ## Room for nested conditions -/

namespace Reading

variable {α β : Type}

/-- Whatever one reading makes of some tokens, another makes of them too. -/
def Extends (reading more : Reading α) : Prop :=
  ∀ ts a rest, reading ts = some (a, rest) → more ts = some (a, rest)

theorem Extends.refl (reading : Reading α) : Extends reading reading := fun _ _ _ read => read

theorem Extends.bind {reading more : Reading α} {next further : α → Reading β}
    (first : Extends reading more) (second : ∀ a, Extends (next a) (further a)) :
    Extends (reading >>= next) (more >>= further) := by
  intro ts b rest read
  rw [bind_run, Option.bind_eq_some_iff] at read ⊢
  obtain ⟨⟨a, left⟩, begun, ended⟩ := read
  exact ⟨(a, left), first ts a left begun, second a left b rest ended⟩

theorem Extends.ite {condition : Prop} [Decidable condition] {left right more further : Reading α}
    (yes : Extends left more) (no : Extends right further) :
    Extends (if condition then left else right) (if condition then more else further) := by
  split
  · exact yes
  · exact no

/-- One more step is no harm at any level. -/
theorem nested_extends (steps : Nat) :
    Extends (disjunction steps) (disjunction (steps + 1)) ∧
      Extends (conjunction steps) (conjunction (steps + 1)) ∧
        Extends (singleCondition steps) (singleCondition (steps + 1)) := by
  induction steps with
  | zero =>
    refine ⟨?_, ?_, ?_⟩
    · intro ts condition rest read
      cases read
    · intro ts condition rest read
      cases read
    · intro ts condition rest read
      cases read
  | succ steps ih =>
    obtain ⟨disjunctions, conjunctions, singles⟩ := ih
    refine ⟨?_, ?_, ?_⟩
    · exact .bind conjunctions fun left => .bind (.refl _) fun more =>
        .ite (.bind disjunctions fun right => .refl _) (.refl _)
    · exact .bind singles fun left => .bind (.refl _) fun more =>
        .ite (.bind conjunctions fun right => .refl _) (.refl _)
    · exact .bind (.refl _) fun opened =>
        .ite (.bind disjunctions fun inner => .refl _) (.refl _)

theorem disjunction_extends {steps more : Nat} (enough : steps ≤ more) :
    Extends (disjunction steps) (disjunction more) := by
  induction enough with
  | refl => exact .refl _
  | step _ ih =>
    intro ts condition rest read
    exact (nested_extends _).1 ts condition rest (ih ts condition rest read)

end Reading

/-! ## Conditions joined by AND -/

/-- The conditions that a condition joins by AND, from left to right. -/
def Condition.conjuncts {κ α : Type} : Condition κ α → List (Condition κ α)
  | .and left right => left.conjuncts ++ right.conjuncts
  | condition => [condition]

theorem nameToken_ne_placeholder (name : String) : nameToken name ≠ .placeholder := by
  unfold nameToken
  split <;> simp

/-! ## Parentheses -/

theorem NoWord.sign (keywords : List String) (s : Sign) (ts : List Token) :
    NoWord keywords (.sign s :: ts) := by
  intro keyword _ text first
  cases first

/-- A condition in parentheses is read as it is read by itself. -/
theorem TakesCondition.parens {ts rest : List Token} {condition : Condition ColumnName Operand}
    (takes : TakesCondition ts condition) {steps : Nat}
    (enough : 3 * ((ts ++ .sign .rightParen :: rest).length + 1) < steps) :
    Reading.singleCondition steps (.sign .leftParen :: (ts ++ .sign .rightParen :: rest)) =
      some (condition, rest) := by
  obtain ⟨steps, rfl⟩ : ∃ n, steps = n + 1 := ⟨steps - 1, by omega⟩
  have within : Reading.disjunction (3 * ((ts ++ .sign .rightParen :: rest).length + 1))
      (ts ++ .sign .rightParen :: rest) = some (condition, .sign .rightParen :: rest) :=
    takes (.sign .rightParen :: rest) (.sign _ _ _)
  have inner := Reading.disjunction_extends (Nat.le_of_lt_succ enough) _ _ _ within
  have opened : Reading.acceptsSign .leftParen
      (.sign .leftParen :: (ts ++ .sign .rightParen :: rest)) =
        some (true, ts ++ .sign .rightParen :: rest) := rfl
  have closed : Reading.sign .rightParen (.sign .rightParen :: rest) = some ((), rest) :=
    Reading.Takes.sign .rightParen rest
  simp [Reading.singleCondition, Reading.bind_run, opened, inner, closed, Reading.map_run]

/-- Two conditions in parentheses with AND between them are both. -/
theorem TakesCondition.and {ts us : List Token} {left right : Condition ColumnName Operand}
    (first : TakesCondition ts left) (second : TakesCondition us right) :
    TakesCondition ((.sign .leftParen :: ts ++ [.sign .rightParen]) ++ .word "AND" ::
      (.sign .leftParen :: us ++ [.sign .rightParen])) (.and left right) := by
  intro rest ends
  let behind : List Token := .sign .leftParen :: (us ++ .sign .rightParen :: rest)
  let whole : List Token := .sign .leftParen :: (ts ++ .sign .rightParen :: .word "AND" :: behind)
  have parts : (.sign .leftParen :: ts ++ [.sign .rightParen]) ++ .word "AND" ::
      (.sign .leftParen :: us ++ [.sign .rightParen]) ++ rest = whole := by
    simp [whole, behind]
  obtain ⟨steps, room⟩ : ∃ n, 3 * (whole.length + 1) = n + 3 := ⟨3 * whole.length, by omega⟩
  have opening : Reading.singleCondition (steps + 1) whole =
      some (left, .word "AND" :: behind) := by
    refine first.parens ?_
    simp only [whole, List.length_cons] at room ⊢
    omega
  have closing : Reading.singleCondition steps behind = some (right, rest) := by
    refine second.parens ?_
    simp only [whole, behind, List.length_cons, List.length_append] at room ⊢
    omega
  have noAnd := ends.acceptsWord (show "AND" ∈ _ by simp)
  have noOr := ends.acceptsWord (show "OR" ∈ _ by simp)
  rw [parts]
  show Reading.disjunction (3 * (whole.length + 1)) whole = _
  rw [room]
  simp [Reading.disjunction, Reading.conjunction, Reading.bind_run, opening, acceptsWord_same,
    closing, noAnd, noOr, Reading.pure_run]

end Sql

/-! ## Predicates put together -/

namespace Predicate

variable {p q : Predicate} {ts us : List Token}

/-- Two conditions, of which either may be missing. -/
def both : Option (Condition ColumnName Operand) → Option (Condition ColumnName Operand) →
    Option (Condition ColumnName Operand)
  | none, right? => right?
  | left?, none => left?
  | some left, some right => some (.and left right)

/-- A predicate has no condition exactly if every row meets it. -/
theorem Means.none_iff {condition? : Option (Condition ColumnName Operand)}
    (means : p.Means ts condition?) : condition? = none ↔ p = .all := by
  cases means with
  | all => exact ⟨fun _ => rfl, fun _ => rfl⟩
  | clause written read => exact ⟨nofun, nofun⟩

/-- Both of two predicates are both of their conditions. -/
theorem Means.and {left? right? : Option (Condition ColumnName Operand)}
    (first : p.Means ts left?) (second : q.Means us right?) :
    ∃ vs, (p.and q).Means vs (both left? right?) ∧
      vs.count .placeholder = ts.count .placeholder + us.count .placeholder := by
  cases first with
  | all => exact ⟨us, by simpa [both] using second, by simp⟩
  | @clause left before ts leftCondition writtenLeft readLeft =>
    cases second with
    | all => exact ⟨_, .clause writtenLeft readLeft, by simp⟩
    | @clause right behind us rightCondition writtenRight readRight =>
      have and := Writes.word "AND" (by decide)
      have written := (writtenLeft.parens.blank and).blank writtenRight.parens
      have text : "(" ++ left ++ ") AND (" ++ right ++ ")" =
          "(" ++ left ++ ")" ++ " " ++ "AND" ++ " " ++ ("(" ++ right ++ ")") :=
        String.toList_inj.mp (by simp)
      rw [← text] at written
      refine ⟨_, .clause written ?_, ?_⟩
      · simpa using readLeft.and readRight
      · simp [List.count_append]

/-- A predicate put together from equalities: every row meets it, or a column has a value, or both
of two such predicates are met. -/
inductive Joins : Predicate → List (String × Value) → Prop where
  | all : Joins .all []
  | equals (column : String) (value : Value) : Joins (.columnEquals column value) [(column, value)]
  | and {p q : Predicate} {left right : List (String × Value)} (first : Joins p left)
      (second : Joins q right) : Joins (p.and q) (left ++ right)

theorem Joins.byIdentity (column : String) (identity : Int64) :
    Joins (.byIdentity column identity) [(column, .integer identity)] :=
  .equals column (.integer identity)

/-- The conditions of which a missing one, or one that joins several by AND, is made. -/
def conjuncts : Option (Condition ColumnName Operand) → List (Condition ColumnName Operand)
  | none => []
  | some condition => condition.conjuncts

theorem conjuncts_both (left? right? : Option (Condition ColumnName Operand)) :
    conjuncts (both left? right?) = conjuncts left? ++ conjuncts right? := by
  cases left? with
  | none => rfl
  | some left =>
    cases right? with
    | none => exact (List.append_nil _).symm
    | some right => rfl

/-- A predicate put together from equalities is the condition that joins them by AND, with a
placeholder for each of them and their values bound in this order. -/
theorem Joins.means {equalities : List (String × Value)} (joins : p.Joins equalities)
    (free : ∀ equality ∈ equalities, '\x00' ∉ equality.1.toList) :
    ∃ ts condition?, p.Means ts condition? ∧
      conjuncts condition? = equalities.map (fun equality =>
        .compare (columnNameOf equality.1) .equal .placeholder) ∧
      p.args = equalities.map Prod.snd ∧ ts.count .placeholder = equalities.length := by
  induction joins with
  | all => exact ⟨[], none, .all, rfl, rfl, rfl⟩
  | equals column value =>
    refine ⟨_, _, means_columnEquals (free _ List.mem_cons_self) value, rfl, rfl, ?_⟩
    simp [nameToken_ne_placeholder]
  | and _ _ left right =>
    obtain ⟨ts, left?, means, asked, bound, counted⟩ :=
      left fun equality member => free equality (List.mem_append_left _ member)
    obtain ⟨us, right?, further, more, behind, rest⟩ :=
      right fun equality member => free equality (List.mem_append_right _ member)
    obtain ⟨vs, whole, sum⟩ := means.and further
    refine ⟨vs, _, whole, ?_, ?_, ?_⟩
    · rw [conjuncts_both, asked, more, List.map_append]
    · rw [args_and, bound, behind, List.map_append]
    · rw [sum, counted, rest, List.length_append]

end Predicate

end EntityTables
