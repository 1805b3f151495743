/-
# EntityTables.Source.Nesting — parts inside of parts

The grammar whose parts hold parts of every kind, as deep as tokens can nest them. Each level reads
its parts with the grammar of the level below; where no level is left, nothing is well formed. Every
few levels take a token at least, so a depth made from the number of tokens is never exhausted.

* `Grammar.nested` — a grammar of some depth; `grammarFor` — one deep enough for some tokens.
-/
import EntityTables.Source.DeclarationReader
import EntityTables.Source.TokenReader

namespace EntityTables.Source

set_option autoImplicit false

open Reading

/-- The grammar whose parts nest to a depth. -/
def Grammar.nested : Nat → Grammar
  | 0 => .empty
  | depth + 1 =>
    { type := fun plus cursor => readType (nested depth) plus cursor
      bound := fun captures conditional cursor =>
        readBound (nested depth) captures conditional cursor
      operand := fun structs cursor => readOperand (nested depth) structs cursor
      operation := fun form structs base cursor =>
        readOperation (nested depth) form structs base cursor
      body := fun cursor => readBody (nested depth) cursor
      pattern := fun cursor => readPattern (nested depth) cursor
      statements := fun cursor => readStatements (nested depth) cursor
      fields := fun cursor => (do let _ ← readNamedFields (nested depth) : Reading Unit) cursor
      declaration := fun cursor => readDeclaration (nested depth) cursor
      imports := fun root cursor => readImports (nested depth) root cursor }

/-- A grammar deep enough for some tokens. -/
def grammarFor (trees : List Tree) : Grammar := .nested (8 * sizeOfTrees trees + 16)

/-- A type, read from tokens. -/
def readTypeExpr : Reading TypeExpr := do (grammarFor (← upcoming)).type true

/-- A path, read from tokens: its text without a space anywhere. -/
def readPathText : Reading String := do
  return (← readSimplePath (grammarFor (← upcoming)) false).text

/-- The type that is the whole of a text. -/
def readType? (text : String) : Option TypeExpr := do whole readTypeExpr (← readTrees? text)

end EntityTables.Source
