/-
# EntityTables.Source.Grammar — the readings that a declaration's parts share

Types hold expressions, expressions hold statements, patterns and types again. The readings of each
kind are written as if those of all kinds were given: a `Grammar` gives them, and `Source.Nesting`
makes one from the readings themselves.

* `Grammar` — one reading for each kind of part that may hold itself.
* `ExpressionForm`, `PatternForm` — what the surroundings of a part depend on.
* `Grammar.expression`, `Grammar.block` — the two that are made from others.
-/
import EntityTables.Source.Reading
import EntityTables.Source.TypeExpr

namespace EntityTables.Source

set_option autoImplicit false

/-- What the surroundings of an expression depend on. -/
inductive ExpressionForm where
  /-- One that ends a statement without a semicolon. -/
  | block
  /-- An invocation with braces. -/
  | bracedInvocation
  /-- A range, which no operator may follow. -/
  | range
  /-- A comparison, which no other comparison may follow. -/
  | comparison
  | plain
  deriving DecidableEq, Inhabited

/-- What the surroundings of a pattern depend on. -/
inductive PatternForm where
  /-- Two dots alone. -/
  | rest
  /-- A range without one of its bounds. -/
  | openRange
  | plain
  deriving DecidableEq, Inhabited

/-- How closely an operator binds its operands, in ascending order. -/
inductive Rank where
  | lowest
  | assignment
  | range
  | disjunction
  | conjunction
  | comparison
  | bitOr
  | bitXor
  | bitAnd
  | shift
  | sum
  | product
  | cast
  deriving DecidableEq, Inhabited

/-- The place of a rank in the order. -/
def Rank.level : Rank → Nat
  | lowest => 0
  | assignment => 1
  | range => 2
  | disjunction => 3
  | conjunction => 4
  | comparison => 5
  | bitOr => 6
  | bitXor => 7
  | bitAnd => 8
  | shift => 9
  | sum => 10
  | product => 11
  | cast => 12

/-- The readings of the parts that may hold parts of every kind. -/
structure Grammar where
  /-- A type; several bounds may be added up to one, if the argument says so. -/
  type : Bool → Reading TypeExpr
  /-- A bound, and whether it is a trait: the first argument says whether it may list what it
  captures, the second whether it may be conditional. -/
  bound : Bool → Bool → Reading Bool
  /-- An operand with the signs before it; a struct may begin with its path, if the argument says
  so. -/
  operand : Bool → Reading ExpressionForm
  /-- What follows an expression of some form: operators that bind as closely as a rank at least,
  and their other operands. -/
  operation : ExpressionForm → Bool → Rank → Reading ExpressionForm
  /-- An expression that ends early if it is a block. -/
  body : Reading ExpressionForm
  /-- A pattern without alternatives. -/
  pattern : Reading PatternForm
  /-- Statements, up to the end of their group. -/
  statements : Reading Unit
  /-- The fields of a braced group. -/
  fields : Reading Unit
  /-- A declaration of any kind. -/
  declaration : Reading Unit
  /-- What a declaration brings into scope; its paths may begin with `::`, if the argument says
  so. -/
  imports : Bool → Reading Unit

/-- The grammar in which nothing is well formed. -/
def Grammar.empty : Grammar where
  type _ := failure
  bound _ _ := failure
  operand _ := failure
  operation _ _ _ := failure
  body := failure
  pattern := failure
  statements := failure
  fields := failure
  declaration := failure
  imports _ := failure

namespace Grammar

open Reading

/-- An expression. -/
def expressionWith (g : Grammar) (structs : Bool) : Reading ExpressionForm := do
  g.operation (← g.operand structs) structs .lowest

/-- An expression, wherever its form does not matter. -/
def expression (g : Grammar) : Reading Unit := do let _ ← g.expressionWith true

/-- An expression before a brace that does not belong to it. -/
def subject (g : Grammar) : Reading Unit := do let _ ← g.expressionWith false

/-- A type, wherever only its text matters. -/
def typeText (g : Grammar) : Reading Unit := do let _ ← g.type true

/-- A type that adds up no bounds, wherever only its text matters. -/
def closedType (g : Grammar) : Reading Unit := do let _ ← g.type false

/-- Statements in braces. -/
def block (g : Grammar) : Reading Unit := inside .brace g.statements

end Grammar

/-! ## What comes first -/

/-- Whether `::` comes first, and behind it what a test accepts. -/
def startsJoined (test : List Tree → Bool) (trees : List Tree) : Bool :=
  match punct? [':', ':'] trees with
  | some rest => test rest
  | none => false

/-- Whether a colon comes first that is not doubled. -/
def startsColon (trees : List Tree) : Bool :=
  startsPunct [':'] trees && !startsPunct [':', ':'] trees

/-- Whether one of some words comes first. -/
def startsOneOf (names : List String) (trees : List Tree) : Bool :=
  names.any fun name => startsWord name trees

/-- Whether the first segment of a path comes first. -/
def startsSegment (trees : List Tree) : Bool :=
  startsIdentifier trees || startsOneOf ["super", "self", "Self", "crate"] trees

/-- Whether a path begins, other than one in angle brackets. -/
def startsPath (trees : List Tree) : Bool :=
  startsSegment trees || startsPunct [':', ':'] trees

/-- Whether a literal token comes first that is a number. -/
def startsNumber : List Tree → Bool
  | .leaf _ (.literal text) :: _ => (text.toList.head?.map Char.isDigit).getD false
  | _ => false

/-- Whether a literal comes first: a token, a truth value, or a number with its sign. -/
def startsLiteral : List Tree → Bool
  | .leaf _ (.literal _) :: _ => true
  | .leaf _ (.word text) :: _ => text == "true" || text == "false"
  | .leaf _ (.punct '-' _) :: rest => startsNumber rest
  | _ => false

/-- Whether an exclamation mark comes first that is no comparison. -/
def startsBang (trees : List Tree) : Bool :=
  startsPunct ['!'] trees && !startsPunct ['!', '='] trees

/-- Whether a dot comes first that is not doubled. -/
def startsDot (trees : List Tree) : Bool :=
  startsPunct ['.'] trees && !startsPunct ['.', '.'] trees

/-- Whether a group of any kind comes first. -/
def startsAnyGroup : List Tree → Bool
  | .group _ _ _ :: _ => true
  | _ => false

/-- Whether parameters in angle brackets begin, and not a path that begins with one. -/
def startsParameters (trees : List Tree) : Bool :=
  let second := trees.drop 1
  let third := trees.drop 2
  startsPunct ['<'] trees &&
    (startsPunct ['>'] second || startsPunct ['#'] second || startsWord "const" second ||
      (startsLifetime second || startsIdentifier second) &&
        (startsPunct ['>'] third || startsPunct [','] third || startsColon third ||
          startsPunct ['='] third))

namespace Reading

/-- Takes a literal. -/
def literal : Reading Unit := do
  require startsLiteral
  let _ ← optionalPunct ['-']
  let _ ← any

end Reading

end EntityTables.Source
