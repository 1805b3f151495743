/-
# EntityTables.Source.TypeReader — types and bounds read from tokens

Reads every form of type: paths, parentheses and tuples, references, pointers, slices and arrays,
functions, sums of bounds, and invocations. A path in a type has no parameters in parentheses; the
trait of a bound may have them.

* `readBound`, `readBounds` — bounds; `readType` — a type.
-/
import EntityTables.Source.Literal
import EntityTables.Source.ParameterReader

namespace EntityTables.Source

set_option autoImplicit false

open Reading

/-! ## Bounds -/

/-- The parameters in parentheses of a trait, and its result. -/
def readCall (g : Grammar) : Reading Unit := do
  let _ ← inside .paren (commas g.typeText)
  if ← optionalPunct ['-', '>'] then g.closedType

/-- Whether a segment has no arguments, perhaps between its angle brackets. -/
def Segment.isHollow : Segment → Bool
  | .mk _ .none | .mk _ (.angle _ [] _) => true
  | _ => false

/-- A path whose last segment stands for its name alone. -/
def TypeExpr.withoutArguments : TypeExpr → TypeExpr
  | .path qualifier? absolute segments =>
    let last := segments.drop (segments.length - 1)
    .path qualifier? absolute (segments.dropLast ++ last.map fun segment => .mk segment.name .none)
  | type => type

/-- A trait as a bound. What `for` introduces and a question mark exclude each other. Neither a
double colon before the parameters in parentheses nor empty angle brackets are spelled. -/
def readTrait (g : Grammar) : Reading Unit := do
  let introduced ← readBinder g
  if ← aheadGroup .bracket then inside .bracket (word "const")
  else let _ ← optionalWord "const"
  if ← optionalPunct ['?'] then require fun _ => !introduced
  let (path, _) ← isolated (readSimplePath g false)
  let hollow := (path.lastSegment?.map Segment.isHollow).getD false
  let callFollows (trees : List Tree) : Bool :=
    startsGroup .paren trees || startsJoined (startsGroup .paren) trees
  if hollow && (← ahead callFollows) then
    spell path.withoutArguments.tokens
    let _ ← isolated (optionalPunct [':', ':'])
    readCall g
  else spell path.tokens

/-- Whether a condition stands before the trait of a bound. -/
def isConditional (g : Grammar) (trees : List Tree) : Bool :=
  match on? (readBinder g) trees with
  | some (_, rest) => startsGroup .bracket rest || startsWord "const" rest
  | none => false

/-- What a type captures: lifetimes, which are spelled first, and names. -/
def readCaptures : Reading Unit := do
  word "use"
  let (arguments, _) ← isolated do
    punct ['<']
    let capture : Reading Argument := do
      if ← ahead startsLifetime then return .lifetime (← lifetime)
      else if ← aheadWord "Self" then return .other (← anyWord)
      else return .other (← identifier)
    let (arguments, trailing) ← commaList (startsPunct ['>']) capture
    punct ['>']
    return Arguments.angle false arguments trailing
  spell arguments.tokens

/-- A bound, and whether it is a trait. -/
def readBound (g : Grammar) (captures conditional : Bool) : Reading Bool := do
  let trees ← upcoming
  if startsLifetime trees then
    let _ ← lifetime
    return false
  else if startsWord "use" trees then
    require fun _ => captures
    readCaptures
    return false
  else
    let held := ((group? .paren trees).map Prod.fst).getD trees
    let bound := if startsGroup .paren trees then inside .paren (readTrait g) else readTrait g
    if isConditional g held then
      require fun _ => conditional
      verbatim bound
    else bound
    return true

/-- Whether another bound may follow a plus. -/
def startsBound (conditional : Bool) (trees : List Tree) : Bool :=
  (word? trees).isSome || startsPunct [':', ':'] trees || startsPunct ['?'] trees ||
    startsLifetime trees || startsGroup .paren trees ||
    conditional && startsGroup .bracket trees

/-- Bounds with plus signs between them, and perhaps one behind; one at least is a trait. -/
def readBounds (g : Grammar) (plus captures conditional : Bool) : Reading Unit := do
  let step := fun (someTrait : Bool) => do
    let someTrait := (← g.bound captures conditional) || someTrait
    if plus && (← optionalPunct ['+']) && (← ahead (startsBound conditional)) then
      return .inl someTrait
    else return .inr someTrait
  if ← repeated step false then pure () else failure

/-- The bounds added behind a first one; the last plus may stand alone. -/
def readFurtherBounds (g : Grammar) : Reading Unit :=
  many do
    if ← optionalPunct ['+'] then
      if ← ahead (startsBound false) then
        let _ ← g.bound false false
        return true
      else return false
    else return false

/-- The bounds added behind one in parentheses; none may be missing. -/
def readMoreBounds (g : Grammar) : Reading Unit :=
  many do
    if ← optionalPunct ['+'] then
      let _ ← g.bound false false
      return true
    else return false

/-! ## Functions -/

/-- Whether the parameters that follow are any others. -/
def startsVariadic (trees : List Tree) : Bool :=
  startsPunct ['.', '.', '.'] trees ||
    (startsIdentifier trees || startsWord "_" trees) && startsPunct [':'] (trees.drop 1) &&
      startsPunct ['.', '.', '.'] (trees.drop 2)

/-- Any other parameters, perhaps with a name. -/
def readVariadic : Reading Unit := do
  if !(← aheadPunct ['.', '.', '.']) then
    let _ ← anyWord
    punct [':']
  punct ['.', '.', '.']
  let _ ← optionalPunct [',']
  require List.isEmpty

/-- Whether `self` comes first behind `mut`. -/
def startsMutableSelf (trees : List Tree) : Bool :=
  startsWord "mut" trees && startsWord "self" (trees.drop 1)

/-- A parameter of a function's type, perhaps with a name. The first one may be `self`. -/
def readParameterType (g : Grammar) (first : Bool) : Reading Unit := do
  let mutable := first && startsMutableSelf (← upcoming)
  let parameter := do
    if mutable then word "mut"
    let trees ← upcoming
    let self := first && startsWord "self" trees
    let named := (startsIdentifier trees || startsWord "_" trees || self) &&
      startsColon (trees.drop 1)
    if named then
      let _ ← anyWord
      punct [':']
    if mutable && !named then word "self"
    else if first && !self && (← ahead startsMutableSelf) then
      word "mut"
      word "self"
    else g.typeText
  if mutable then verbatim parameter else parameter

/-- The parameters of a function's type. -/
def readParameterTypes (g : Grammar) : Reading Unit := do
  let step := fun (first : Bool) => do
    if ← atEnd then return .inr ()
    skipAttributes g
    if ← ahead startsVariadic then
      readVariadic
      return .inr ()
    readParameterType g first
    if ← atEnd then return .inr ()
    punct [',']
    return .inl false
  repeated step true

/-- How a function is called, if `extern` comes first. -/
def readInterface : Reading Unit := do
  if ← optionalWord "extern" then
    let startsString (trees : List Tree) : Bool :=
      (trees.head?.map fun tree => (stringValue? tree.text).isSome).getD false
    if ← ahead startsString then let _ ← any

/-- The type of a function. -/
def readFunctionType (g : Grammar) : Reading Unit := do
  let _ ← optionalWord "unsafe"
  readInterface
  word "fn"
  inside .paren (readParameterTypes g)
  if ← optionalPunct ['-', '>'] then g.closedType

/-! ## Types -/

/-- A type that begins with a path: an invocation, a sum of bounds, or the path itself. -/
def readPathType (g : Grammar) (plus : Bool) : Reading TypeExpr := do
  let path ← readPath g false
  let trees ← upcoming
  if path.isPlainPath && startsBang trees then
    return .other (path.tokens ++ (← spelled do let _ ← readInvocation))
  else if path.lastName?.isSome && plus && startsPunct ['+'] trees then
    return .other (path.tokens ++ (← spelled (readFurtherBounds g)))
  else return path

/-- A type that begins with `for`; before an invocation it is not spelled. -/
def readIntroducedType (g : Grammar) (plus : Bool) : Reading TypeExpr := do
  let (text, _) ← isolated do
    let introduced ← spelled do let _ ← readBinder g
    if ← ahead (startsOneOf ["fn", "unsafe", "extern"]) then
      return introduced ++ (← spelled (readFunctionType g))
    else
      require startsSegment
      let path ← readSimplePath g false
      if path.isPlainPath && (← ahead startsBang) then
        return path.tokens ++ (← spelled do let _ ← readInvocation)
      else if plus then
        return introduced ++ path.tokens ++ (← spelled (readFurtherBounds g))
      else return introduced ++ path.tokens
  spell text
  return .other text

/-- The spelling of a type in parentheses as a first bound, if it can be one: a path, one that `for`
introduces, or a bound in parentheses, which keeps one pair of them. -/
def soleBound? (g : Grammar) (held : List Tree) : TypeExpr → Option String
  | .path none absolute segments =>
    some ("(" ++ (TypeExpr.path none absolute segments).tokens ++ ")")
  | .other text =>
    match held with
    | [.group _ .paren inner] => if startsPunct ['?'] inner then some text else none
    | _ =>
      if startsWord "for" held && (whole (readTrait g) held).isSome then
        some ("(" ++ text ++ ")")
      else none
  | _ => none

/-- A type, and what follows its first comma if there is one. -/
def readTupleTypes (g : Grammar) : Reading (TypeExpr × Option String) := do
  let first ← g.type true
  if ← aheadPunct [','] then
    let others ← spelled do
      punct [',']
      let _ ← commas g.typeText
    return (first, some others)
  else return (first, none)

/-- A type that begins with a parenthesis: a tuple, a bound, or a type in parentheses, which may
begin a sum of bounds. -/
def readParenthesized (g : Grammar) (plus : Bool) : Reading TypeExpr := do
  let (type, _) ← isolated do
    let some (held, _) := group? .paren (← upcoming) | failure
    if held.isEmpty then
      inside .paren (pure ())
      return .other "()"
    else if startsLifetime held then
      return .paren (.other (← inside .paren (spelled (readBounds g true false false))))
    else if startsPunct ['?'] held then
      return .other (← spelled do
        inside .paren (readTrait g)
        readMoreBounds g)
    else
      match ← inside .paren (readTupleTypes g) with
      | (first, some others) => return .other ("(" ++ first.tokens ++ others ++ ")")
      | (first, none) =>
        match soleBound? g held first with
        | some bound =>
          if plus && (← aheadPunct ['+']) then
            return .other (bound ++ (← spelled (readMoreBounds g)))
          else return .paren first
        | none => return .paren first
  spell type.tokens
  return type

/-- A type in brackets: an array or a slice. -/
def readBracketed (g : Grammar) : Reading Unit :=
  inside .bracket do
    g.typeText
    if ← optionalPunct [';'] then g.expression

/-- A pointer. -/
def readPointer (g : Grammar) : Reading Unit := do
  punct ['*']
  if !(← optionalWord "const") then word "mut"
  g.closedType

/-- A reference. -/
def readReference (g : Grammar) : Reading Unit := do
  punct ['&']
  if ← ahead startsLifetime then let _ ← lifetime
  let _ ← optionalWord "mut"
  g.closedType

/-- A sum of bounds that begins with a word, `dyn` or `impl`. -/
def readTraitType (g : Grammar) (plus : Bool) : Reading Unit := do
  if startsPunct ['*'] ((← upcoming).drop 1) then
    verbatim do
      word "dyn"
      punct ['*']
      readBounds g plus false false
  else if ← optionalWord "dyn" then readBounds g plus false false
  else
    word "impl"
    readBounds g plus true true

/-- A type. `plus` says whether several bounds may be added up to one. -/
def readType (g : Grammar) (plus : Bool) : Reading TypeExpr := do
  let trees ← upcoming
  if startsWord "for" trees then readIntroducedType g plus
  else if startsGroup .paren trees then readParenthesized g plus
  else if !startsBuiltin trees && (startsPath trees || startsPunct ['<'] trees) then
    readPathType g plus
  else
    let text ← spelled do
      if startsBuiltin trees then readBuiltin
      else if startsOneOf ["fn", "unsafe", "extern"] trees then readFunctionType g
      else if startsOneOf ["dyn", "impl"] trees then readTraitType g plus
      else if startsGroup .bracket trees then readBracketed g
      else if startsPunct ['*'] trees then readPointer g
      else if startsPunct ['&'] trees then readReference g
      else if startsPunct ['!'] trees then punct ['!']
      else if startsWord "_" trees then word "_"
      else if startsLifetime trees then readBounds g true false false
      else failure
    return .other text

end EntityTables.Source
