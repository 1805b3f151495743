/-
# EntityTables.Source.ExpressionReader — expressions read from tokens

An expression is an operand with operators and further operands behind it, which bind by rank. An
operand is an atom with signs before it and calls, fields and indices behind it. Where a brace must
not belong to an expression, a struct is no atom, and nothing that ends early takes the brace.

* `readOperand`, `readOperation` — an operand, and the operators behind one.
* `readBody` — an expression that ends early if it is a block.
-/
import EntityTables.Source.PatternReader

namespace EntityTables.Source

set_option autoImplicit false

open Reading

/-! ## Operators -/

/-- The operators between two operands, the longer ones first. -/
def binaryOperators : List (List Char × Rank) :=
  [(['+', '='], .assignment), (['-', '='], .assignment), (['*', '='], .assignment),
   (['/', '='], .assignment), (['%', '='], .assignment), (['^', '='], .assignment),
   (['&', '='], .assignment), (['|', '='], .assignment), (['<', '<', '='], .assignment),
   (['>', '>', '='], .assignment), (['&', '&'], .conjunction), (['|', '|'], .disjunction),
   (['<', '<'], .shift), (['>', '>'], .shift), (['=', '='], .comparison),
   (['<', '='], .comparison), (['!', '='], .comparison), (['>', '='], .comparison),
   (['+'], .sum), (['-'], .sum), (['*'], .product), (['/'], .product), (['%'], .product),
   (['^'], .bitXor), (['&'], .bitAnd), (['|'], .bitOr), (['<'], .comparison), (['>'], .comparison)]

/-- The operator that comes first. -/
def operator? (trees : List Tree) : Option (List Char × Rank) :=
  binaryOperators.find? fun operator => startsPunct operator.1 trees

/-- Whether an assignment comes first, and no arrow. -/
def startsAssignment (trees : List Tree) : Bool :=
  startsPunct ['='] trees && !startsPunct ['=', '>'] trees

/-- The rank of what comes first, the lowest if it is no operator. -/
def nextRank (trees : List Tree) : Rank :=
  match operator? trees with
  | some (_, rank) => rank
  | none =>
    if startsAssignment trees then .assignment
    else if startsPunct ['.', '.'] trees then .range
    else if startsWord "as" trees then .cast
    else .lowest

/-- The operand behind an operator of some rank, with all that binds more closely. -/
def readRightOperand (g : Grammar) (structs : Bool) (rank : Rank) : Reading Unit := do
  let step := fun (form : ExpressionForm) => do
    let trees ← upcoming
    let next := nextRank trees
    if rank.level < next.level || next == rank && rank == .assignment then
      let form ← g.operation form structs next
      return if (← upcoming).length = trees.length then .inr () else .inl form
    else return .inr ()
  repeated step (← g.operand structs)

/-- Whether a range whose last bound does not belong to it has none. -/
def startsNoBound (structs : Bool) (trees : List Tree) : Bool :=
  trees.isEmpty || startsDot trees || !structs && startsGroup .brace trees ||
    startsWord "as" trees ||
    [[','], [';'], ['?'], ['=', '>'], ['='], ['+'], ['/'], ['%'], ['^'], ['>'], ['<', '='],
     ['!', '='], ['-', '='], ['*', '='], ['&', '='], ['|', '='], ['<', '<', '=']].any
      fun sign => startsPunct sign trees

/-- The dots of a range and its last bound. -/
def readRangeEnd (g : Grammar) (structs : Bool) : Reading Unit := do
  let closed ← readDots false
  if closed || !(← ahead (startsNoBound structs)) then readRightOperand g structs .range

/-- Whether what follows a conversion would be read as part of its type. -/
def startsTrailer (trees : List Tree) : Bool :=
  startsDot trees || startsPunct ['?'] trees || startsGroup .bracket trees ||
    startsGroup .paren trees

/-- Operators of a rank at least behind an expression, and their operands. -/
def readOperation (g : Grammar) (form : ExpressionForm) (structs : Bool) (base : Rank) :
    Reading ExpressionForm := do
  let step := fun (form : ExpressionForm) => do
    let trees ← upcoming
    if form == .range then return .inr form
    match operator? trees with
    | some (operator, rank) =>
      if rank.level < base.level then return .inr form
      require fun _ => !(rank == .comparison && form == .comparison)
      punct operator
      readRightOperand g structs rank
      return .inl (if rank == .comparison then .comparison else .plain)
    | none =>
      if base.level ≤ Rank.assignment.level && startsAssignment trees then
        punct ['=']
        readRightOperand g structs .assignment
        return .inl .plain
      else if base.level ≤ Rank.range.level && startsPunct ['.', '.'] trees then
        readRangeEnd g structs
        return .inl .range
      else if base.level ≤ Rank.cast.level && startsWord "as" trees then
        word "as"
        g.closedType
        require (!startsTrailer ·)
        return .inl .plain
      else return .inr form
  repeated step form

/-! ## What stands behind an atom -/

/-- Expressions with commas between them, in parentheses. -/
def readArgumentList (g : Grammar) : Reading Unit := do
  let _ ← inside .paren (commas g.expression)

/-- The name of a field or a method, and what the method is given. -/
def readNamedMember (g : Grammar) : Reading Unit := do
  let _ ← identifier
  if ← aheadPunct [':', ':'] then
    punct [':', ':']
    require (startsPunct ['<'])
    let _ ← readArguments g
    readArgumentList g
  else if ← aheadGroup .paren then readArgumentList g

/-- A member behind a point: a name, a method, a number of fields, or a wait. -/
def readMemberAccess (g : Grammar) : Reading Unit := do
  match ← upcoming with
  | .leaf _ (.literal text) :: _ =>
    match fieldNumbers? text.toList with
    | some (numbers, dotted) =>
      let _ ← isolated any
      spell (".".intercalate (numbers.map toString) ++ if dotted then "." else "")
      if dotted then
        if !(← optionalWord "await") then
          if ← ahead startsNumber then let _ ← readMember
          else readNamedMember g
    | none => failure
  | _ => if !(← optionalWord "await") then readNamedMember g

/-- Calls, members, indices and question marks behind an expression. -/
def readTrailers (g : Grammar) (form : ExpressionForm) : Reading ExpressionForm := do
  let step := fun (form : ExpressionForm) => do
    let trees ← upcoming
    if startsGroup .paren trees then
      readArgumentList g
      return .inl .plain
    else if startsDot trees && form != .range then
      punct ['.']
      readMemberAccess g
      return .inl .plain
    else if startsGroup .bracket trees then
      inside .bracket g.expression
      return .inl .plain
    else if startsPunct ['?'] trees && form != .range then
      punct ['?']
      return .inl .plain
    else return .inr form
  repeated step form

/-! ## Atoms in brackets -/

/-- Statements in braces, behind attributes about the whole. -/
def readWholeBlock (g : Grammar) : Reading Unit :=
  inside .brace do
    innerAttributes g
    g.statements

/-- Elements with commas between them, or one and how often it is repeated. -/
def readArray (g : Grammar) : Reading Unit :=
  inside .bracket do
    if ← atEnd then pure ()
    else
      g.expression
      if ← optionalPunct [';'] then g.expression
      else if !(← atEnd) then
        punct [',']
        let _ ← commas g.expression

/-- A field of a struct and its value; a name alone is its own value. -/
def readFieldValue (g : Grammar) : Reading Unit := do
  skipAttributes g
  let named ← readMember
  if !named || (← aheadPunct [':']) then
    punct [':']
    g.expression

/-- The fields of a struct; behind two dots stands where the others come from. -/
def readStruct (g : Grammar) : Reading Unit :=
  inside .brace do
    repeated (fun () => do
      if ← atEnd then return .inr ()
      if ← optionalPunct ['.', '.'] then
        if !(← atEnd) then g.expression
        return .inr ()
      readFieldValue g
      if ← atEnd then return .inr ()
      punct [',']
      return .inl ()) ()

/-- A path, an invocation or a struct. -/
def readPathExpression (g : Grammar) (structs : Bool) : Reading ExpressionForm := do
  let path ← readPath g true
  let trees ← upcoming
  if path.isPlainPath && startsBang trees then
    return if (← readInvocation) == .brace then .bracedInvocation else .plain
  else if structs && startsGroup .brace trees then
    readStruct g
    return .plain
  else return .plain

/-! ## Control -/

/-- Branches of a condition, each behind `else`. -/
def readConditional (g : Grammar) : Reading Unit :=
  repeated (fun () => do
    word "if"
    g.subject
    g.block
    if ← optionalWord "else" then
      if ← aheadWord "if" then return .inl ()
      g.block
    return .inr ()) ()

/-- A branch of a choice. -/
def readBranch (g : Grammar) : Reading Unit := do
  skipAttributes g
  let _ ← readAlternatives g
  if ← optionalWord "if" then g.expression
  punct ['=', '>']
  let form ← g.body
  if form == .block || (← atEnd) then let _ ← optionalPunct [',']
  else punct [',']

/-- A choice between patterns. -/
def readChoice (g : Grammar) : Reading Unit := do
  word "match"
  g.subject
  inside .brace do
    innerAttributes g
    many do
      if ← atEnd then return false
      readBranch g
      return true

/-- A loop. -/
def readLoop (g : Grammar) : Reading Unit := do
  if ← optionalWord "while" then g.subject
  else if ← optionalWord "for" then
    let _ ← readAlternatives g
    word "in"
    g.subject
  else word "loop"
  readWholeBlock g

/-- A loop or a block behind its label. -/
def readLabeled (g : Grammar) : Reading Unit := do
  let _ ← lifetime
  punct [':']
  if ← aheadGroup .brace then readWholeBlock g else readLoop g

/-! ## Functions without a name -/

/-- A parameter of a function without a name. -/
def readClosureParameter (g : Grammar) : Reading Unit := do
  skipAttributes g
  let _ ← g.pattern
  if ← optionalPunct [':'] then g.typeText

/-- A function without a name. -/
def readClosure (g : Grammar) (structs : Bool) : Reading Unit := do
  let _ ← readBinder g
  for name in ["const", "static", "async", "move"] do
    let _ ← optionalWord name
  punct ['|']
  let _ ← commaList (startsPunct ['|']) (readClosureParameter g)
  punct ['|']
  if ← optionalPunct ['-', '>'] then
    g.typeText
    g.block
  else let _ ← g.expressionWith structs

/-- Whether a function without a name begins. -/
def startsClosure (trees : List Tree) : Bool :=
  let behind := trees.drop 1
  startsPunct ['|'] trees || startsOneOf ["move", "static"] trees ||
    startsWord "for" trees && startsParameters behind ||
    startsWord "const" trees && !startsGroup .brace behind ||
    startsWord "async" trees && (startsPunct ['|'] behind || startsWord "move" behind)

/-! ## Leaving -/

/-- Whether an expression begins. -/
def startsExpression (trees : List Tree) : Bool :=
  let sign (cs : List Char) (others : List (List Char)) : Bool :=
    startsPunct cs trees && !others.any (startsPunct · trees)
  (word? trees).isSome && !startsWord "as" trees || startsAnyGroup trees || startsLiteral trees ||
    startsLifetime trees || sign ['!'] [['!', '=']] || sign ['-'] [['-', '='], ['-', '>']] ||
    sign ['*'] [['*', '=']] || sign ['|'] [['|', '=']] || sign ['&'] [['&', '=']] ||
    sign ['.', '.'] [] || sign ['<'] [['<', '='], ['<', '<', '=']] || sign [':', ':'] [] ||
    sign ['#'] []

/-- A word that leaves a loop or a function, and what it hands over. -/
def readExit (g : Grammar) (structs : Bool) : Reading Unit := do
  if ← optionalWord "continue" then
    if ← ahead startsLifetime then let _ ← lifetime
  else if ← optionalWord "break" then
    if ← ahead startsLifetime then
      let _ ← lifetime
      require (!startsPunct [':'] ·)
    let trees ← upcoming
    if startsExpression trees && (structs || !startsGroup .brace trees) then g.expression
  else if ← ahead (startsOneOf ["return", "yield"]) then
    let _ ← anyWord
    if ← ahead startsExpression then g.expression
  else
    verbatim do
      word "become"
      g.expression

/-! ## Atoms -/

/-- Whether an asynchronous block begins. -/
def startsAsyncBlock (trees : List Tree) : Bool :=
  let behind := trees.drop 1
  startsWord "async" trees &&
    (startsGroup .brace behind || startsWord "move" behind && startsGroup .brace (trees.drop 2))

/-- Whether a block in which a fault is kept begins. -/
def startsTryBlock (trees : List Tree) : Bool :=
  startsWord "try" trees && startsGroup .brace (trees.drop 1)

/-- Whether a path begins in an expression. -/
def startsExpressionPath (trees : List Tree) : Bool :=
  startsPath trees || startsPunct ['<'] trees ||
    startsWord "try" trees &&
      (startsPunct ['!'] (trees.drop 1) || startsPunct [':', ':'] (trees.drop 1))

/-- A condition that binds names. -/
def readLet (g : Grammar) (structs : Bool) : Reading Unit := do
  word "let"
  let _ ← readAlternatives g
  punct ['=']
  let _ ← g.operation (← g.operand structs) structs .comparison

/-- A block of any kind, if one comes first, and whether it does. -/
def readBlock (g : Grammar) : Reading Bool := do
  let trees ← upcoming
  let behind := trees.drop 1
  if startsWord "if" trees then readConditional g; return true
  else if startsOneOf ["while", "loop"] trees ||
      startsWord "for" trees && !startsParameters behind then readLoop g; return true
  else if startsWord "match" trees then readChoice g; return true
  else if startsTryBlock trees then
    word "try"
    g.block
    return true
  else if startsWord "unsafe" trees then
    word "unsafe"
    readWholeBlock g
    return true
  else if startsWord "const" trees && startsGroup .brace behind then
    word "const"
    readWholeBlock g
    return true
  else if startsGroup .brace trees then readWholeBlock g; return true
  else if startsLifetime trees then readLabeled g; return true
  else return false

/-- An atom. -/
def readAtom (g : Grammar) (structs : Bool) : Reading ExpressionForm := do
  let trees ← upcoming
  if startsLiteral trees then literal; return .plain
  else if startsAsyncBlock trees then
    word "async"
    let _ ← optionalWord "move"
    g.block
    return .plain
  else if startsTryBlock trees then let _ ← readBlock g; return .block
  else if startsClosure trees then readClosure g structs; return .plain
  else if startsBuiltin trees then readBuiltin; return .plain
  else if startsExpressionPath trees then readPathExpression g structs
  else if startsGroup .paren trees then readArgumentList g; return .plain
  else if startsOneOf ["break", "continue", "return", "become", "yield"] trees then
    readExit g structs
    return .plain
  else if startsGroup .bracket trees then readArray g; return .plain
  else if startsWord "let" trees then readLet g structs; return .plain
  else if startsPunct ['.', '.'] trees then readRangeEnd g structs; return .range
  else if startsWord "_" trees then word "_"; return .plain
  else if ← readBlock g then return .block
  else failure

/-! ## Operands -/

/-- An operand: signs, an atom and what stands behind it. -/
def readOperand (g : Grammar) (structs : Bool) : Reading ExpressionForm := do
  let attributed := !(← attributes g).isEmpty
  let trees ← upcoming
  let behind := trees.drop 1
  if startsPunct ['&'] trees then
    punct ['&']
    if startsWord "raw" behind && startsOneOf ["mut", "const"] (behind.drop 1) then
      word "raw"
      let _ ← anyWord
    else let _ ← optionalWord "mut"
    let _ ← g.operand structs
    return .plain
  else if [['*'], ['!'], ['-']].any (startsPunct · trees) then
    let _ ← any
    let _ ← g.operand structs
    return .plain
  else
    let form ← readTrailers g (← readAtom g structs)
    require fun _ => !(attributed && form == .range)
    return form

/-- An expression that ends early: behind a block no operator is read, unless a point or a question
mark makes it an operand. -/
def readBody (g : Grammar) : Reading ExpressionForm := do
  skipAttributes g
  let form ← if ← readBlock g then pure .block else g.operand true
  let trees ← upcoming
  if form != .block then g.operation form true .lowest
  else if startsDot trees || startsPunct ['?'] trees then
    g.operation (← readTrailers g form) true .lowest
  else return form

end EntityTables.Source
