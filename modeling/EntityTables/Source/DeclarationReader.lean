/-
# EntityTables.Source.DeclarationReader — declarations inside of blocks

Functions, constants, modules, imports, types, traits and their implementations, and invocations
that declare something. A declaration in a form that is not yet settled is spelled as it is written.

* `readDeclaration` — a declaration behind its attributes.
-/
import EntityTables.Source.FieldReader
import EntityTables.Source.StatementReader
import EntityTables.Source.TypeReader

namespace EntityTables.Source

set_option autoImplicit false

open Reading

/-! ## Functions -/

/-- What stands before the name of a function; `safe` may stand for `unsafe`, if allowed. -/
def readQualities (allowSafe : Bool) : Reading Unit := do
  let _ ← optionalWord "const"
  let _ ← optionalWord "async"
  if !(allowSafe && (← optionalWord "safe")) then
    let _ ← optionalWord "unsafe"
  readInterface

/-- Whether a function is declared next. -/
def startsFunction (allowSafe : Bool) (trees : List Tree) : Bool :=
  match on? (readQualities allowSafe) trees with
  | some (_, rest) => startsWord "fn" rest
  | none => false

/-- What a method is called on. -/
def readReceiver (g : Grammar) : Reading Unit := do
  let byReference ← optionalPunct ['&']
  if byReference then
    if ← ahead startsLifetime then let _ ← lifetime
  let _ ← optionalWord "mut"
  word "self"
  if !byReference then
    if ← optionalPunct [':'] then g.typeText

/-- A parameter, and whether any others follow it. The first one may be what a method is called
on. A type alone may stand for a parameter if it has arguments. -/
def readFunctionParameter (g : Grammar) (first : Bool) : Reading Bool := do
  let trees ← upcoming
  if accepts (readReceiver g) trees then
    require fun _ => first
    readReceiver g
    return false
  else if startsIdentifier trees && startsPunct ['<'] (trees.drop 1) then
    spell "_:"
    g.typeText
    return false
  else
    let _ ← g.pattern
    punct [':']
    if ← optionalPunct ['.', '.', '.'] then return true
    g.typeText
    return false

/-- The parameters of a function. -/
def readFunctionParameters (g : Grammar) : Reading Unit := do
  let variadicEnd : Reading (Bool ⊕ Unit) := do
    if !(← atEnd) then punct [',']
    return .inr ()
  let step := fun (first : Bool) => do
    if ← atEnd then return .inr ()
    skipAttributes g
    if ← optionalPunct ['.', '.', '.'] then variadicEnd
    else if ← readFunctionParameter g first then variadicEnd
    else if ← atEnd then return .inr ()
    else
      punct [',']
      return .inl false
  repeated step true

/-- A function up to its body. -/
def readSignature (g : Grammar) (allowSafe : Bool) : Reading Unit := do
  readQualities allowSafe
  word "fn"
  let _ ← identifier
  let _ ← readParameters g
  inside .paren (readFunctionParameters g)
  if ← optionalPunct ['-', '>'] then g.typeText
  let _ ← readConditions g

/-- A function with a body or a semicolon in its place; whether it has a body. -/
def readFunction (g : Grammar) (allowSafe : Bool) : Reading Bool := do
  readSignature g allowSafe
  if ← optionalPunct [';'] then return false
  else
    readWholeBlock g
    return true

/-! ## Constants and types -/

/-- A constant: its name, its type and perhaps its value; whether it is settled in form, which with
parameters or conditions it is not, nor without a value unless it needs none. -/
def readConstantItem (g : Grammar) (needsValue : Bool) : Reading Bool := do
  word "const"
  if !(← optionalWord "_") then let _ ← identifier
  let parameters ← aheadPunct ['<']
  let _ ← readParameters g
  punct [':']
  g.typeText
  let valued ← optionalPunct ['=']
  if valued then g.expression
  let conditioned ← readConditions g
  punct [';']
  return !parameters && !conditioned && (valued || !needsValue)

/-- A place that lasts: its name, perhaps its type and its value; whether it has both. -/
def readStaticItem (g : Grammar) : Reading Bool := do
  word "static"
  let _ ← optionalWord "mut"
  let _ ← identifier
  let typed ← optionalPunct [':']
  if typed then g.typeText
  let valued ← optionalPunct ['=']
  if valued then g.expression
  require fun _ => typed || valued
  punct [';']
  return typed && valued

/-- Where the conditions of a type's name may stand. -/
inductive ConditionPlace where
  | beforeDefinition
  | behindDefinition
  | both
  deriving DecidableEq

/-- Bounds behind a colon, all separated, up to where a test holds; a colon without bounds is not
spelled. -/
def readSupertraits (g : Grammar) (atEnd : List Tree → Bool) : Reading Unit :=
  readBoundsBehindColon do let _ ← separated ['+'] atEnd (g.bound false true)

/-- A name for a type: its bounds and perhaps its definition; whether it has a definition and no
bounds. -/
def readTypeItem (g : Grammar) (place : ConditionPlace) : Reading Bool := do
  let boundsEnd (trees : List Tree) : Bool :=
    startsWord "where" trees || startsPunct ['='] trees || startsPunct [';'] trees
  word "type"
  let _ ← identifier
  let _ ← readParameters g
  let bounded ← aheadPunct [':']
  readSupertraits g boundsEnd
  let before ← if place == .behindDefinition then pure false else readConditions g
  let defined ← optionalPunct ['=']
  if defined then g.typeText
  if place != .beforeDefinition && !before then let _ ← readConditions g
  punct [';']
  return defined && !bounded

/-! ## Imports and modules -/

/-- A new name behind `as`, if it comes first; it may be an underscore. -/
def readRenaming : Reading Unit := do
  if ← optionalWord "as" then
    if !(← optionalWord "_") then let _ ← identifier

/-- What an import brings into scope. Several imports stand in braces; each may begin with `::`, if
none of those around it does. -/
def readImports (g : Grammar) (root : Bool) : Reading Unit := do
  let trees ← upcoming
  if startsIdentifier trees || startsOneOf ["self", "super", "crate", "try"] trees then
    let _ ← anyWord
    if ← optionalPunct [':', ':'] then g.imports false else readRenaming
  else if startsPunct ['*'] trees then punct ['*']
  else
    let _ ← inside .brace <| commas do
      let absolute ← if root then optionalPunct [':', ':'] else pure false
      g.imports (root && !absolute)

/-- An import. -/
def readImport (g : Grammar) : Reading Unit := do
  word "use"
  let absolute ← optionalPunct [':', ':']
  g.imports (!absolute)
  punct [';']

/-- Declarations, up to the end of their group. -/
def readDeclarations (declaration : Reading Unit) : Reading Unit :=
  many do
    if ← atEnd then return false
    declaration
    return true

/-- A declaration with its attributes. -/
def readAttributed (g : Grammar) : Reading Unit := do
  skipAttributes g
  g.declaration

/-- A module. -/
def readModule (g : Grammar) : Reading Unit := do
  let _ ← optionalWord "unsafe"
  word "mod"
  if !(← optionalWord "try") then let _ ← identifier
  if !(← optionalPunct [';']) then
    inside .brace do
      innerAttributes g
      readDeclarations (readAttributed g)

/-- A library that is brought into scope. -/
def readLibrary : Reading Unit := do
  word "extern"
  word "crate"
  if !(← optionalWord "self") then let _ ← identifier
  readRenaming
  punct [';']

/-! ## Invocations -/

/-- Whether a declaration begins with a path. -/
def startsInvocation (trees : List Tree) : Bool :=
  startsIdentifier trees || startsOneOf ["self", "super", "crate"] trees ||
    startsPunct [':', ':'] trees

/-- An invocation that declares something; with `named`, it may have a name of its own. -/
def readInvocationItem (named : Bool) : Reading Unit := do
  let _ ← readPlainPath
  punct ['!']
  if named && (← ahead fun trees => startsIdentifier trees || startsWord "try" trees) then
    let _ ← anyWord
  if (← anyGroup) != .brace then punct [';']

/-- Rules of expansion. -/
def readRules : Reading Unit := do
  word "macro"
  let _ ← identifier
  if ← aheadGroup .paren then let _ ← anyGroup
  require (startsGroup .brace)
  let _ ← anyGroup

/-! ## Members of traits, implementations and libraries -/

/-- A member of a trait. A form that only members elsewhere have is spelled as it is written. -/
def readTraitMember (g : Grammar) : Reading Unit := do
  skipAttributes g
  let visible ← readVisibility
  let isDefault ← optionalWord "default"
  let elsewhere := visible || isDefault
  let trees ← upcoming
  if startsFunction false trees then verbatimIf do
    let _ ← readFunction g false
    return elsewhere
  else if startsWord "const" trees then verbatimIf do
    let settled ← readConstantItem g false
    return elsewhere || !settled
  else if startsWord "type" trees then verbatimIf do
    let _ ← readTypeItem g .behindDefinition
    return elsewhere
  else
    require fun trees => !elsewhere && startsInvocation trees
    readInvocationItem false

/-- A member of an implementation. -/
def readImplMember (g : Grammar) : Reading Unit := do
  skipAttributes g
  let visible ← readVisibility
  let marked (trees : List Tree) : Bool :=
    startsWord "default" trees && !startsPunct ['!'] (trees.drop 1)
  let isDefault ← if ← ahead marked then optionalWord "default" else pure false
  let trees ← upcoming
  if startsFunction false trees then verbatimIf do return !(← readFunction g false)
  else if startsWord "const" trees then verbatimIf do return !(← readConstantItem g true)
  else if startsWord "type" trees then
    verbatimIf do return !(← readTypeItem g .behindDefinition)
  else
    require fun trees => !visible && !isDefault && startsInvocation trees
    readInvocationItem false

/-- A member of a library in another language. -/
def readForeignMember (g : Grammar) : Reading Unit := do
  skipAttributes g
  let visible ← readVisibility
  let trees ← upcoming
  if startsFunction true trees then verbatimIf (readFunction g true)
  else if startsWord "static" trees ||
      startsOneOf ["unsafe", "safe"] trees && startsWord "static" (trees.drop 1) then
    if !startsWord "static" trees then let _ ← anyWord
    word "static"
    let _ ← optionalWord "mut"
    let _ ← identifier
    punct [':']
    g.typeText
    if ← optionalPunct ['='] then g.expression
    punct [';']
  else if startsWord "type" trees then verbatimIf do
    let _ ← readTypeItem g .both
    return true
  else
    require fun trees => !visible && startsInvocation trees
    readInvocationItem false

/-- Members in braces, behind attributes about the whole. -/
def readMembers (g : Grammar) (member : Reading Unit) : Reading Unit :=
  inside .brace do
    innerAttributes g
    readDeclarations member

/-- A library in another language. -/
def readForeign (g : Grammar) : Reading Unit := do
  let _ ← optionalWord "unsafe"
  require (startsWord "extern")
  readInterface
  readMembers g (readForeignMember g)

/-! ## Traits and implementations -/

/-- A trait, or a name for bounds. -/
def readTraitItem (g : Grammar) : Reading Unit := do
  let boundsEnd (trees : List Tree) : Bool :=
    startsWord "where" trees || startsGroup .brace trees
  let aliasEnd (trees : List Tree) : Bool :=
    startsWord "where" trees || startsPunct [';'] trees
  let special ← ahead (startsOneOf ["unsafe", "auto"])
  let _ ← optionalWord "unsafe"
  let _ ← optionalWord "auto"
  word "trait"
  let _ ← identifier
  let _ ← readParameters g
  if !special && (← aheadPunct ['=']) then
    punct ['=']
    let _ ← separated ['+'] aliasEnd (g.bound false true)
    let _ ← readConditions g
    punct [';']
  else
    readSupertraits g boundsEnd
    let _ ← readConditions g
    readMembers g (readTraitMember g)

/-- Whether a type is a path that nothing qualifies. -/
def TypeExpr.isSimplePath : TypeExpr → Bool
  | .path none _ _ => true
  | _ => false

/-- An implementation of a trait or of a type itself; whether it is unconditional and its trait, if
it has one, is named by a path. -/
def readImplementation (g : Grammar) : Reading Bool := do
  let _ ← optionalWord "default"
  let _ ← optionalWord "unsafe"
  word "impl"
  if ← ahead startsParameters then let _ ← readParameters g
  let conditional (trees : List Tree) : Bool :=
    startsWord "const" trees || startsPunct ['?'] trees && startsWord "const" (trees.drop 1)
  let isConditional ← ahead conditional
  if isConditional then
    let _ ← optionalPunct ['?']
    word "const"
  let negative (trees : List Tree) : Bool :=
    startsPunct ['!'] trees && !startsGroup .brace (trees.drop 1)
  let negated ← ahead negative
  if negated then punct ['!']
  let type ← g.type true
  let ofTrait ← optionalWord "for"
  if ofTrait then g.typeText else require fun _ => !negated
  let _ ← readConditions g
  readMembers g (readImplMember g)
  return !isConditional && (type.isSimplePath || !ofTrait)

/-! ## Declarations -/

/-- Whether `auto` stands before a trait. -/
def startsAutoTrait (trees : List Tree) : Bool :=
  startsWord "auto" trees && startsWord "trait" (trees.drop 1)

/-- A declaration that begins with `unsafe` and is no function. -/
def readUnsafeItem (g : Grammar) (visible : Bool) : Reading Unit := do
  let behind := (← upcoming).drop 1
  if startsWord "trait" behind || startsAutoTrait behind then readTraitItem g
  else if startsWord "impl" behind then
    verbatimIf do return !(← readImplementation g) || visible
  else if startsWord "extern" behind then
    require fun _ => !visible
    readForeign g
  else readModule g

/-- A declaration of a type. -/
def readTypeDeclaration (g : Grammar) : Reading Unit := do
  let keyword ← anyWord
  let _ ← identifier
  let _ ← readParameters g
  let _ ← match keyword with
    | "struct" => readStructBody g
    | "enum" => readEnumBody g
    | _ => readUnionBody g

/-- A declaration behind its attributes. -/
def readDeclaration (g : Grammar) : Reading Unit := do
  let visible ← readVisibility
  let trees ← upcoming
  let behind := trees.drop 1
  if startsFunction false trees then verbatimIf do return !(← readFunction g false)
  else if startsWord "extern" trees then
    if startsWord "crate" behind then readLibrary
    else
      require fun _ => !visible
      readForeign g
  else if startsWord "use" trees then readImport g
  else if startsWord "static" trees then verbatimIf do return !(← readStaticItem g)
  else if startsWord "const" trees then verbatimIf do return !(← readConstantItem g true)
  else if startsWord "unsafe" trees then readUnsafeItem g visible
  else if startsWord "mod" trees then readModule g
  else if startsWord "type" trees then
    verbatimIf do return !(← readTypeItem g .beforeDefinition)
  else if startsOneOf ["struct", "enum"] trees ||
      startsWord "union" trees && startsIdentifier behind then readTypeDeclaration g
  else if startsWord "trait" trees || startsAutoTrait trees then readTraitItem g
  else if startsWord "impl" trees || startsWord "default" trees && !startsPunct ['!'] behind then
    verbatimIf do return !(← readImplementation g) || visible
  else if startsWord "macro" trees then verbatim readRules
  else
    require fun trees => !visible && startsInvocation trees
    readInvocationItem true

end EntityTables.Source
