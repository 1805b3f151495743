/-
# EntityTables.Proofs.Source.Expressions — expressions and their pieces

The expressions that adapters are made of, as trees, and the pieces that they are printed as. What
follows an expression is printed together with it, since it decides whether two marks are joined.

* `Operand`, `Expression` — the trees; `Operand.print`, `Expression.print` — their pieces.
* `Operand.depth`, `Expression.depth` — how deep a grammar must be that reads them.
* `Operand.Valid`, `Expression.Valid` — that their names are words that may stand there.
-/
import EntityTables.Proofs.Source.Paths

namespace EntityTables.Source

set_option autoImplicit false

open Reading

/-! ## Expressions and their pieces -/

mutual
/-- An operand without signs: an atom, and what stands behind it. -/
inductive Operand where
  | path (path : Names)
  | text (text : String)
  | unit
  | call (path : Names) (arguments : List Expression)
  /-- A call without arguments of what a trait gives a type. -/
  | associated (type trait : Names) (name : String)
  | member (operand : Operand) (name : String)
  /-- The call of a method, with the blanks before its point. -/
  | method (operand : Operand) (blanks : List Char) (name : String) (arguments : List Expression)
  | ask (operand : Operand)

/-- An expression. -/
inductive Expression where
  | operand (operand : Operand)
  | signed (sign : Char) (operand : Operand)
  | cast (operand : Operand) (type : Names)
  /-- A choice between a value that is there, which gets a name, and none. -/
  | choice (subject : Expression) (name : String) (held other : Operand)
end

/-- Pieces behind blanks, if there are any. -/
def lead (blanks : List Char) (after : List Piece) : List Piece :=
  match blanks with
  | [] => after
  | _ => .gap blanks :: after

mutual
/-- The pieces of an operand. -/
def Operand.print : Operand → List Piece → List Piece
  | .path path, after => path.print after
  | .text text, after => .quoted text :: after
  | .unit, after => .group .paren [] :: after
  | .call path arguments, after => path.print (.group .paren (printArguments arguments) :: after)
  | .associated type trait name, after =>
    .mark '<' :: type.print (.gap [' '] :: .word "as" :: .gap [' '] :: trait.print
      (.mark '>' :: .mark ':' :: .mark ':' :: .word name :: .group .paren [] :: after))
  | .member operand name, after => operand.print (.mark '.' :: .word name :: after)
  | .method operand blanks name arguments, after =>
    operand.print (lead blanks
      (.mark '.' :: .word name :: .group .paren (printArguments arguments) :: after))
  | .ask operand, after => operand.print (.mark '?' :: after)

/-- The pieces of an expression. -/
def Expression.print : Expression → List Piece → List Piece
  | .operand operand, after => operand.print after
  | .signed sign operand, after => .mark sign :: operand.print after
  | .cast operand type, after =>
    operand.print (.gap [' '] :: .word "as" :: .gap [' '] :: type.print after)
  | .choice subject name held other, after =>
    .word "match" :: .gap [' '] :: subject.print (.gap [' '] :: .group .brace
      (.gap [' '] :: .word "Some" :: .group .paren [.word name] :: .gap [' '] ::
        .mark '=' :: .mark '>' :: .gap [' '] :: held.print
          (.mark ',' :: .gap [' '] :: .word "None" :: .gap [' '] ::
            .mark '=' :: .mark '>' :: .gap [' '] :: other.print [.gap [' ']])) :: after)

/-- The pieces of arguments. -/
def printArguments : List Expression → List Piece
  | [] => []
  | argument :: others => argument.print (printOthers others)

/-- The pieces of further arguments, each behind a comma. -/
def printOthers : List Expression → List Piece
  | [] => []
  | argument :: others => .mark ',' :: .gap [' '] :: argument.print (printOthers others)
end

mutual
/-- How deep a grammar must be that takes the atom of an operand and what stands behind it. -/
def Operand.depth : Operand → Nat
  | .path _ | .text _ | .unit => 0
  | .call _ arguments => depthOf arguments
  | .associated _ _ _ => 1
  | .member operand _ | .ask operand => operand.depth
  | .method operand _ _ arguments => max operand.depth (depthOf arguments)

/-- How deep a grammar must be that takes an expression. -/
def Expression.depth : Expression → Nat
  | .operand operand => operand.depth + 1
  | .signed _ operand | .cast operand _ => operand.depth + 2
  | .choice subject _ held other =>
    max (subject.depth + 1) (max (held.depth + 3) (other.depth + 3))

/-- How deep a grammar must be that takes expressions. -/
def depthOf : List Expression → Nat
  | [] => 0
  | expression :: others => max expression.depth (depthOf others)
end

/-- A word that is an identifier. -/
structure IsField (name : String) : Prop where
  word : IsWord name
  named : isIdentifier name = true

instance (name : String) : Decidable (IsField name) :=
  decidable_of_iff (IsWord name ∧ isIdentifier name = true)
    ⟨fun both => ⟨both.1, both.2⟩, fun field => ⟨field.word, field.named⟩⟩

mutual
/-- The names of an operand are words that may stand there. -/
def Operand.Valid : Operand → Prop
  | .path path => path.Valid
  | .text _ | .unit => True
  | .call path arguments => path.Valid ∧ AllValid arguments
  | .associated type trait name => type.Valid ∧ trait.Valid ∧ IsField name
  | .member operand name => operand.Valid ∧ IsField name
  | .method operand blanks name arguments =>
    operand.Valid ∧ (∀ c ∈ blanks, isGap c = true) ∧ IsField name ∧ AllValid arguments
  | .ask operand => operand.Valid

/-- The names of an expression are words that may stand there. -/
def Expression.Valid : Expression → Prop
  | .operand operand => operand.Valid
  | .signed sign operand => (sign = '&' ∨ sign = '*') ∧ operand.Valid
  | .cast operand type => operand.Valid ∧ type.Valid
  | .choice subject name held other =>
    subject.Valid ∧ IsField name ∧ held.Valid ∧ other.Valid

/-- The names of expressions are words that may stand there. -/
def AllValid : List Expression → Prop
  | [] => True
  | expression :: others => expression.Valid ∧ AllValid others
end

/-! ## What the pieces of expressions begin with -/

section First

variable {after : List Piece}

/-- Whether a piece may begin an operand: the first piece of a path, a text or a parenthesis. -/
def startsOperand : Option Piece → Bool
  | some (.word name) => isName name
  | some (.mark c) => c == ':' || c == '<'
  | some (.quoted _) => true
  | some (.group .paren _) => true
  | _ => false

theorem isWord_of_startsOperand {piece? : Option Piece} (starts : startsOperand piece? = true)
    {keyword : String} (other : isName keyword = false) : isWord keyword piece? = false := by
  unfold startsOperand at starts
  split at starts
  · exact beq_of_isName starts other
  all_goals first | rfl | cases starts

theorem isMark_of_startsOperand {piece? : Option Piece} (starts : startsOperand piece? = true)
    {c : Char} (other : c ∉ [':', '<']) : isMark c piece? = false := by
  unfold startsOperand at starts
  split at starts
  · rfl
  · refine beq_false_of_ne ?_
    rintro rfl
    simp_all
  all_goals first | rfl | cases starts

theorem first?_operand_path {path : Names} (valid : path.Valid) :
    startsOperand (first? (path.print after)) = true := by
  rw [first?_path]
  cases path.absolute with
  | true => rfl
  | false => exact valid.named _ List.mem_cons_self

theorem first?_lead (blanks : List Char) : first? (lead blanks after) = first? after := by
  cases blanks <;> rfl

theorem tokens_lead (blanks : List Char) : tokens (lead blanks after) = tokens after := by
  cases blanks <;> rfl

theorem startsOperand_print : ∀ (operand : Operand) (after : List Piece), operand.Valid →
    startsOperand (first? (operand.print after)) = true
  | .path _, _, valid => first?_operand_path valid
  | .text _, _, _ => rfl
  | .unit, _, _ => rfl
  | .call _ _, _, valid => first?_operand_path valid.1
  | .associated _ _ _, _, _ => rfl
  | .member operand _, _, valid => startsOperand_print operand _ valid.1
  | .method operand _ _ _, _, valid => startsOperand_print operand _ valid.1
  | .ask operand, _, valid => startsOperand_print operand _ valid

/-- An operand takes a token at least. -/
theorem tokens_operand : ∀ (operand : Operand) (after : List Piece),
    tokens after < tokens (operand.print after)
  | .path path, after => tokens_path path after
  | .text _, _ => Nat.lt_succ_self _
  | .unit, _ => Nat.lt_succ_self _
  | .call path arguments, after => by
    have some := tokens_path path (.group .paren (printArguments arguments) :: after)
    simp only [Operand.print, tokens] at some ⊢
    omega
  | .associated type trait name, after => by
    have first := tokens_path type (.gap [' '] :: .word "as" :: .gap [' '] :: trait.print
      (.mark '>' :: .mark ':' :: .mark ':' :: .word name :: .group .paren [] :: after))
    have second := tokens_path trait (.mark '>' :: .mark ':' :: .mark ':' :: .word name ::
      .group .paren [] :: after)
    simp only [Operand.print, tokens] at first second ⊢
    omega
  | .member operand name, after =>
    Nat.lt_trans (by simp only [tokens]; omega)
      (tokens_operand operand (.mark '.' :: .word name :: after))
  | .method operand blanks name arguments, after =>
    Nat.lt_trans (by simp only [tokens_lead, tokens]; omega)
      (tokens_operand operand (lead blanks
        (.mark '.' :: .word name :: .group .paren (printArguments arguments) :: after)))
  | .ask operand, after =>
    Nat.lt_trans (Nat.lt_succ_self _) (tokens_operand operand (.mark '?' :: after))

theorem tokens_expression : ∀ (expression : Expression) (after : List Piece),
    tokens after < tokens (expression.print after)
  | .operand operand, after => tokens_operand operand after
  | .signed _ operand, after => Nat.lt_trans (tokens_operand operand after) (Nat.lt_succ_self _)
  | .cast operand type, after => by
    have first := tokens_path type after
    have second := tokens_operand operand (.gap [' '] :: .word "as" :: .gap [' '] ::
      type.print after)
    simp only [Expression.print, tokens] at second ⊢
    omega
  | .choice subject name held other, after => by
    have some := tokens_expression subject (.gap [' '] :: .group .brace
      (.gap [' '] :: .word "Some" :: .group .paren [.word name] :: .gap [' '] ::
        .mark '=' :: .mark '>' :: .gap [' '] :: held.print
          (.mark ',' :: .gap [' '] :: .word "None" :: .gap [' '] ::
            .mark '=' :: .mark '>' :: .gap [' '] :: other.print [.gap [' ']])) :: after)
    simp only [Expression.print, tokens] at some ⊢
    omega

theorem ne_nil_of_tokens {pieces : List Piece} (some : 0 < tokens pieces) :
    (first? pieces).isNone = false := by
  fun_induction tokens pieces with
  | case1 => cases some
  | case2 blanks rest ih => exact ih some
  | case3 piece rest solid =>
    cases piece with
    | gap blanks => exact absurd rfl (solid blanks)
    | _ => rfl

/-- The tokens of an expression are not the end. -/
theorem isEmpty_expression (expression : Expression) (position : Position) :
    (treesAt position (expression.print after)).isEmpty = false := by
  rw [isEmpty_treesAt]
  exact ne_nil_of_tokens (Nat.lt_of_le_of_lt (Nat.zero_le _) (tokens_expression expression after))

end First

end EntityTables.Source
