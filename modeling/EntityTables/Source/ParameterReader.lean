/-
# EntityTables.Source.ParameterReader — parameters and conditions read from tokens

Parameters in angle brackets are lifetimes, constants and types, with bounds and with defaults;
conditions stand behind `where`. Neither a colon without bounds nor a `where` without conditions is
spelled, and of parameters the lifetimes are spelled first.

* `readParameters` — the parameters of a declaration; `readBinder` — those that `for` introduces.
* `readConditions` — the conditions of a declaration.
-/
import EntityTables.Source.AttributeReader

namespace EntityTables.Source

set_option autoImplicit false

open Reading

/-! ## Bounds -/

/-- Values with plus signs between them, and perhaps one behind, up to where a test holds or no plus
sign follows. -/
def readSum (atEnd : List Tree → Bool) (summand : Reading Unit) : Reading Unit :=
  many do
    if ← ahead atEnd then return false
    summand
    optionalPunct ['+']

/-- Lifetimes as bounds. -/
def readLifetimeSum (atEnd : List Tree → Bool) : Reading Unit :=
  readSum atEnd do let _ ← lifetime

/-- Traits and lifetimes as bounds. -/
def readBoundSum (g : Grammar) (atEnd : List Tree → Bool) : Reading Unit :=
  readSum atEnd do let _ ← g.bound false true

/-- Bounds behind a colon, if it comes first; a colon without bounds is not spelled. -/
def readBoundsBehindColon (bounds : Reading Unit) : Reading Unit := do
  if ← aheadPunct [':'] then
    let (_, text) ← isolated do
      punct [':']
      bounds
    if text != ":" then spell text

/-! ## Parameters -/

/-- Whether a parameter's bounds end. -/
def atParameterEnd (trees : List Tree) : Bool :=
  trees.isEmpty || startsPunct [','] trees || startsPunct ['>'] trees || startsPunct ['='] trees

/-- Whether a lifetime's bounds end. -/
def atLifetimeEnd (trees : List Tree) : Bool :=
  trees.isEmpty || startsPunct [','] trees || startsPunct ['>'] trees

/-- A parameter, and whether it is a lifetime. -/
def readParameter (g : Grammar) : Reading Bool := do
  skipAttributes g
  let trees ← upcoming
  if startsLifetime trees then
    let _ ← lifetime
    readBoundsBehindColon (readLifetimeSum atLifetimeEnd)
    return true
  else if startsWord "const" trees then
    word "const"
    let _ ← identifier
    punct [':']
    g.typeText
    if ← optionalPunct ['='] then readConstant g
    return false
  else
    let _ ← identifier
    readBoundsBehindColon (readBoundSum g atParameterEnd)
    if ← optionalPunct ['='] then g.typeText
    return false

/-- The parameters that `for` introduces, if it comes first, and whether it does. -/
def readBinder (g : Grammar) : Reading Bool := do
  if ← optionalWord "for" then
    punct ['<']
    let _ ← commaList (startsPunct ['>']) (readParameter g)
    punct ['>']
    return true
  else return false

/-- A parameter of a declaration, with its spelling and whether it is a lifetime. Its name may be an
underscore. -/
def readDeclaredParameter (g : Grammar) : Reading (Bool × String) :=
  isolated do
    skipAttributes g
    if ← aheadWord "_" then
      let _ ← anyWord
      return false
    else readParameter g

/-- The spelling of parameters that are some of all: each keeps the comma behind it, and the last of
all may have none. -/
def spellParameters (lifetimes : Bool) (trailing : Bool) : List (Bool × String) → String
  | [] => ""
  | [(found, text)] => if found == lifetimes then (if trailing then text ++ "," else text) else ""
  | (found, text) :: rest =>
    (if found == lifetimes then text ++ "," else "") ++ spellParameters lifetimes trailing rest

/-- The parameters of a declaration: where they open, if there are any. -/
def readParameters (g : Grammar) : Reading (Option Position) := do
  let trees ← upcoming
  if startsPunct ['<'] trees then
    let ((parameters, trailing), _) ← isolated do
      punct ['<']
      let found ← commaList (startsPunct ['>']) (readDeclaredParameter g)
      punct ['>']
      return found
    if parameters.isEmpty then return none
    else
      let lifetimes := spellParameters true trailing parameters
      let others := spellParameters false trailing parameters
      let comma := if lifetimes.isEmpty || others.isEmpty || lifetimes.endsWith "," then "" else ","
      spell ("<" ++ lifetimes ++ comma ++ others ++ ">")
      return (trees.head?.map Tree.position)
  else return none

/-! ## Conditions -/

/-- Whether a condition's bounds end. -/
def atConditionEnd (trees : List Tree) : Bool :=
  trees.isEmpty || startsGroup .brace trees || startsPunct [','] trees || startsPunct [';'] trees ||
    startsColon trees || startsPunct ['='] trees

/-- One condition. -/
def readCondition (g : Grammar) : Reading Unit := do
  let trees ← upcoming
  if startsLifetime trees && startsPunct [':'] (trees.drop 1) then
    let _ ← lifetime
    punct [':']
    readLifetimeSum atConditionEnd
  else
    let _ ← readBinder g
    g.typeText
    punct [':']
    readBoundSum g atConditionEnd

/-- The conditions of a declaration, if there are any, and whether `where` comes first. -/
def readConditions (g : Grammar) : Reading Bool := do
  if ← aheadWord "where" then
    let (_, text) ← isolated do
      word "where"
      require (!startsParameters ·)
      many do
        if ← ahead atConditionEnd then return false
        readCondition g
        optionalPunct [',']
    if text != "where" then spell text
    return true
  else return false

end EntityTables.Source
