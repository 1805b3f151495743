/-
# EntityTables.Source.PatternReader — patterns read from tokens

Names, literals, ranges, references, tuples, slices and the fields of structs. Alternatives may
stand wherever something encloses the pattern. Three dots between the bounds of a range are spelled
`..=`.

* `readPattern` — a pattern without alternatives; `readAlternatives` — one with them.
-/
import EntityTables.Source.Literal
import EntityTables.Source.ParameterReader

namespace EntityTables.Source

set_option autoImplicit false

open Reading

/-! ## Members -/

/-- The name or the number of a field, and whether it is a name. A number is spelled in digits. -/
def readMember : Reading Bool := do
  match ← upcoming with
  | .leaf _ (.literal text) :: _ =>
    match fieldNumber? text.toList with
    | some number =>
      let _ ← isolated any
      spell (toString number)
      return false
    | none => failure
  | _ =>
    let _ ← identifier
    return true

/-! ## Ranges -/

/-- The dots between the bounds of a range, and whether the last bound belongs to it. -/
def readDots (obsolete : Bool) : Reading Bool := do
  if ← optionalPunct ['.', '.', '='] then return true
  else if ← aheadPunct ['.', '.', '.'] then
    require fun _ => obsolete
    let _ ← isolated (punct ['.', '.', '.'])
    spell "..="
    return true
  else
    punct ['.', '.']
    return false

/-- Whether a range ends without a last bound. -/
def atRangeEnd (trees : List Tree) : Bool :=
  trees.isEmpty || startsPunct ['|'] trees || startsPunct ['='] trees || startsColon trees ||
    startsPunct [','] trees || startsPunct [';'] trees || startsWord "if" trees

/-- A bound of a range, if there is one, and whether there is. -/
def readRangeBound (g : Grammar) : Reading Bool := do
  let trees ← upcoming
  if atRangeEnd trees then return false
  else
    if startsLiteral trees then literal
    else if startsPath trees || startsPunct ['<'] trees then let _ ← readPath g true
    else
      verbatim do
        word "const"
        inside .brace do
          innerAttributes g
          g.statements
    return true

/-- The dots of a range and its last bound, behind a first bound. -/
def readRangeTail (g : Grammar) : Reading PatternForm := do
  let closed ← readDots true
  if ← readRangeBound g then return .plain
  else
    require fun _ => !closed
    return .openRange

/-- A range without a first bound, or two dots alone. -/
def readHalfRange (g : Grammar) : Reading PatternForm := do
  let closed ← readDots false
  if ← readRangeBound g then return .openRange
  else
    require fun _ => !closed
    return .rest

/-- A literal or a constant, perhaps as the first bound of a range. -/
def readConstantPattern (g : Grammar) : Reading PatternForm := do
  let _ ← readRangeBound g
  if ← aheadPunct ['.', '.'] then readRangeTail g else return .plain

/-! ## Alternatives -/

/-- Whether another alternative follows. -/
def startsAlternative (trees : List Tree) : Bool :=
  startsPunct ['|'] trees && !startsPunct ['|', '|'] trees && !startsPunct ['|', '='] trees

/-- A pattern with alternatives; the first may have a bar before it. -/
def readAlternatives (g : Grammar) : Reading PatternForm := do
  let barred ← optionalPunct ['|']
  let first ← g.pattern
  if barred || (← ahead startsAlternative) then
    many do
      if ← ahead startsAlternative then
        punct ['|']
        let _ ← g.pattern
        return true
      else return false
    return .plain
  else return first

/-! ## Parts of patterns -/

/-- A field of a struct's pattern. -/
def readFieldPattern (g : Grammar) : Reading Unit := do
  if ← ahead (startsOneOf ["box", "ref", "mut"]) then
    for name in ["box", "ref", "mut"] do
      let _ ← optionalWord name
    let _ ← identifier
  else
    let named ← readMember
    if !named || (← aheadPunct [':']) then
      punct [':']
      let _ ← readAlternatives g

/-- The fields of a struct's pattern; two dots stand for all others. -/
def readStructPattern (g : Grammar) : Reading Unit :=
  inside .brace do
    repeated (fun () => do
      if ← atEnd then return .inr ()
      skipAttributes g
      if ← optionalPunct ['.', '.'] then return .inr ()
      readFieldPattern g
      if ← atEnd then return .inr ()
      punct [',']
      return .inl ()) ()

/-- A pattern that begins with a path. -/
def readPathPattern (g : Grammar) : Reading PatternForm := do
  let path ← readPath g true
  let trees ← upcoming
  if path.isPlainPath && startsBang trees then let _ ← readInvocation; return .plain
  else if startsGroup .brace trees then readStructPattern g; return .plain
  else if startsGroup .paren trees then
    let _ ← inside .paren (commas (readAlternatives g))
    return .plain
  else if startsPunct ['.', '.'] trees then readRangeTail g
  else return .plain

/-- A name that is bound, perhaps to what fits another pattern. -/
def readBinding (g : Grammar) : Reading Unit := do
  let _ ← optionalWord "ref"
  let _ ← optionalWord "mut"
  if !(← optionalWord "self") then let _ ← identifier
  if ← optionalPunct ['@'] then let _ ← g.pattern

/-- An element of a slice, which is no range without one of its bounds. -/
def readElementPattern (g : Grammar) : Reading Unit := do
  let form ← readAlternatives g
  require fun _ => form != .openRange

/-! ## Patterns -/

/-- Whether a pattern begins with a path, and not with a name that is bound. -/
def startsPathPattern (trees : List Tree) : Bool :=
  let behind := trees.drop 1
  startsIdentifier trees &&
      (startsPunct [':', ':'] behind || startsPunct ['!'] behind || startsGroup .brace behind ||
        startsGroup .paren behind || startsPunct ['.', '.'] behind) ||
    startsWord "self" trees && startsPunct [':', ':'] behind ||
    startsPunct [':', ':'] trees || startsPunct ['<'] trees ||
    startsOneOf ["Self", "super", "crate"] trees

/-- A pattern without alternatives. -/
def readPattern (g : Grammar) : Reading PatternForm := do
  let trees ← upcoming
  if startsPathPattern trees then readPathPattern g
  else if startsWord "_" trees then word "_"; return .plain
  else if startsWord "box" trees then
    verbatim do
      word "box"
      let _ ← g.pattern
    return .plain
  else if startsPunct ['-'] trees || startsLiteral trees || startsWord "const" trees then
    readConstantPattern g
  else if startsOneOf ["ref", "mut", "self"] trees || startsIdentifier trees then
    readBinding g
    return .plain
  else if startsPunct ['&'] trees then
    punct ['&']
    let _ ← optionalWord "mut"
    let _ ← g.pattern
    return .plain
  else if startsGroup .paren trees then
    let _ ← inside .paren (commas (readAlternatives g))
    return .plain
  else if startsGroup .bracket trees then
    let _ ← inside .bracket (commas (readElementPattern g))
    return .plain
  else if startsPunct ['.', '.'] trees && !startsPunct ['.', '.', '.'] trees then readHalfRange g
  else failure

end EntityTables.Source
