/-
# EntityTables.Source.PathReader — paths read from tokens

A path is a sequence of names with `::` between them, each with arguments in angle brackets if it
has any; before it may stand a type in angle brackets. In an expression, `<` alone is a comparison,
and arguments need `::` before them.

* `readArguments` — arguments; `readPath` — a path of any kind; `readPlainPath` — of names alone.
-/
import EntityTables.Source.Grammar

namespace EntityTables.Source

set_option autoImplicit false

open Reading

/-! ## Arguments -/

/-- Whether a constant begins that is no name: a literal or a block. -/
def startsConstant (trees : List Tree) : Bool := startsLiteral trees || startsGroup .brace trees

/-- Takes a constant: a literal, a name or a block. -/
def readConstant (g : Grammar) : Reading Unit := do
  if ← ahead startsLiteral then literal
  else if ← ahead startsIdentifier then let _ ← identifier
  else g.block

/-- The bounds of an argument, up to a comma or the closing bracket; there may be none. -/
def readArgumentBounds (g : Grammar) : Reading Unit := do
  let atEnd (trees : List Tree) : Bool := startsPunct [','] trees || startsPunct ['>'] trees
  let _ ← separated ['+'] atEnd (g.bound false true)

/-- Whether a type is a name alone, perhaps with arguments. -/
def TypeExpr.isName : TypeExpr → Bool
  | .path none false [_] => true
  | _ => false

/-- An argument. A name may have an equation or bounds behind it. -/
def readArgument (g : Grammar) : Reading Argument := do
  let trees ← upcoming
  if startsLifetime trees && !startsPunct ['+'] (trees.drop 1) then
    return .lifetime (← lifetime)
  else if startsConstant trees then return .other (← spelled (readConstant g))
  else
    let type ← g.type true
    if type.isName && (← aheadPunct ['=']) then
      let value ← spelled do
        punct ['=']
        if ← ahead startsConstant then readConstant g else g.typeText
      return .other (type.tokens ++ value)
    else if type.isName && (← aheadPunct [':']) then
      let bounds ← spelled do
        punct [':']
        readArgumentBounds g
      return .other (type.tokens ++ bounds)
    else return .type type

/-- Arguments in angle brackets, perhaps with `::` before them. -/
def readArguments (g : Grammar) : Reading Arguments := do
  let (arguments, _) ← isolated do
    let turbofish ← optionalPunct [':', ':']
    punct ['<']
    let (arguments, trailing) ← commaList (startsPunct ['>']) (readArgument g)
    punct ['>']
    return Arguments.angle turbofish arguments trailing
  spell arguments.tokens
  return arguments

/-! ## Paths -/

/-- A segment. In an expression its arguments have `::` before them. -/
def readSegment (g : Grammar) (inExpression : Bool) : Reading Segment := do
  if ← ahead (startsOneOf ["super", "self", "crate", "try"]) then return .mk (← anyWord) .none
  else
    let name ← if ← aheadWord "Self" then anyWord else identifier
    let trees ← upcoming
    if !inExpression && startsPunct ['<'] trees && !startsPunct ['<', '='] trees ||
        startsJoined (startsPunct ['<']) trees then
      return .mk name (← readArguments g)
    else return .mk name .none

/-- Segments with `::` between them, as long as a test holds before the next. -/
def readSegments (g : Grammar) (inExpression : Bool) (continues : List Tree → Bool) :
    Reading (List Segment) := do
  let step := fun (segments : List Segment) => do
    let segments := segments ++ [← readSegment g inExpression]
    if ← ahead continues then
      punct [':', ':']
      return .inl segments
    else return .inr segments
  repeated step []

/-- Whether another segment follows; `::` before a parenthesis belongs to the parenthesis. -/
def segmentFollows (trees : List Tree) : Bool :=
  startsPunct [':', ':'] trees && !startsJoined (startsGroup .paren) trees

/-- A path that nothing qualifies. -/
def readSimplePath (g : Grammar) (inExpression : Bool) : Reading TypeExpr := do
  let absolute ← optionalPunct [':', ':']
  return .path none absolute (← readSegments g inExpression segmentFollows)

/-- What stands before a path that is qualified: a type, and perhaps the trait of the path. -/
def readQualifier (g : Grammar) : Reading Unit := do
  punct ['<']
  g.typeText
  if ← optionalWord "as" then let _ ← readSimplePath g false
  punct ['>']
  punct [':', ':']

/-- A path of any kind. -/
def readPath (g : Grammar) (inExpression : Bool) : Reading TypeExpr := do
  if ← aheadPunct ['<'] then
    let qualifier ← spelled (readQualifier g)
    return .path (some qualifier) false
      (← readSegments g inExpression (startsPunct [':', ':']))
  else readSimplePath g inExpression

/-- The names of a path without arguments, and whether it begins with `::`. -/
def readPlainPath : Reading (Bool × List String) := do
  let absolute ← optionalPunct [':', ':']
  let step := fun (names : List String) => do
    require startsSegment
    let names := names ++ [← anyWord]
    if ← optionalPunct [':', ':'] then return .inl names else return .inr names
  return (absolute, ← repeated step [])

/-- Whether a path is made of names alone. -/
def TypeExpr.isPlainPath : TypeExpr → Bool
  | .path none _ segments => segments.all Segment.isPlain
  | _ => false

/-- What an invocation is given, behind its path: its kind of bracket. -/
def readInvocation : Reading Delimiter := do
  punct ['!']
  anyGroup

/-- Whether an operation of the language itself begins. -/
def startsBuiltin (trees : List Tree) : Bool :=
  startsWord "builtin" trees && startsPunct ['#'] (trees.drop 1)

/-- An operation of the language itself; what it is given is not looked at. -/
def readBuiltin : Reading Unit := do
  word "builtin"
  punct ['#']
  let _ ← identifier
  let _ ← inside .paren everything

end EntityTables.Source
