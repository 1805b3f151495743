/-
# EntityTables.Source.StatementReader — statements read from tokens

A statement binds names, declares something, invokes something, or is an expression. An expression
that is no block needs a semicolon unless nothing follows it.

* `readStatements` — the statements of a block.
-/
import EntityTables.Source.ExpressionReader

namespace EntityTables.Source

set_option autoImplicit false

open Reading

/-- Whether the last of the tokens that a reading takes is a braced group. -/
def endsWithBrace (reading : Reading Unit) : Reading Bool := do
  let before ← upcoming
  reading
  let taken := before.take (before.length - (← upcoming).length)
  return match taken.getLast? with
    | some (.group _ .brace _) => true
    | _ => false

/-- Names bound to a value, with what happens if the value does not fit. -/
def readBindings (g : Grammar) : Reading Unit := do
  word "let"
  let _ ← g.pattern
  if ← optionalPunct [':'] then g.typeText
  if ← optionalPunct ['='] then
    if !(← endsWithBrace g.expression) && (← optionalWord "else") then g.block
  punct [';']

/-- Whether a declaration of a constant begins, and no expression. -/
def startsConstantItem (trees : List Tree) : Bool :=
  let second := trees.drop 1
  let third := trees.drop 2
  startsWord "const" trees &&
    !(startsGroup .brace second || startsOneOf ["static", "move"] second ||
      startsPunct ['|'] second ||
      startsWord "async" second && !startsOneOf ["unsafe", "extern", "fn"] third)

/-- Whether a declaration begins, and no expression. -/
def startsDeclaration (trees : List Tree) : Bool :=
  let second := trees.drop 1
  startsOneOf ["pub", "extern", "use", "fn", "mod", "type", "struct", "enum", "trait", "impl",
    "macro"] trees ||
    startsWord "crate" trees && !startsPunct [':', ':'] second ||
    startsWord "static" trees && (startsWord "mut" second || startsIdentifier second) ||
    startsConstantItem trees ||
    startsWord "unsafe" trees && !startsGroup .brace second ||
    startsWord "async" trees && startsOneOf ["unsafe", "extern", "fn"] second ||
    startsWord "union" trees && startsIdentifier second ||
    startsWord "auto" trees && startsWord "trait" second ||
    startsWord "default" trees && startsOneOf ["unsafe", "impl"] second

/-- What stands behind a plain path and its exclamation mark, if they come first. -/
def behindBang? (trees : List Tree) : Option (List Tree) := do
  let (_, rest) ← on? readPlainPath trees
  punct? ['!'] rest

/-- Whether an invocation with a name of its own begins. -/
def startsNamedInvocation (trees : List Tree) : Bool :=
  match behindBang? trees with
  | some rest => startsIdentifier rest || startsWord "try" rest
  | none => false

/-- Whether an invocation with braces begins that is a statement of its own. -/
def startsBracedInvocation (trees : List Tree) : Bool :=
  match behindBang? trees with
  | some rest =>
    startsGroup .brace rest && !startsDot (rest.drop 1) && !startsPunct ['?'] (rest.drop 1)
  | none => false

/-- A statement, and whether nothing may follow it. -/
def readStatement (g : Grammar) : Reading Bool := do
  skipAttributes g
  let trees ← upcoming
  if startsBracedInvocation trees then
    let _ ← readPlainPath
    let _ ← readInvocation
    let _ ← optionalPunct [';']
    return false
  else if startsWord "let" trees then
    readBindings g
    return false
  else if startsDeclaration trees || startsNamedInvocation trees then
    g.declaration
    return false
  else
    let form ← g.body
    let ended ← optionalPunct [';']
    return !ended && form != .block && form != .bracedInvocation

/-- Statements, up to the end of their group. -/
def readStatements (g : Grammar) : Reading Unit :=
  many do
    if ← optionalPunct [';'] then return true
    else if ← atEnd then return false
    else
      let last ← readStatement g
      if last then require List.isEmpty
      return true

end EntityTables.Source
