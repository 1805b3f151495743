/-
# EntityTables.Source.FieldReader — fields and variants read from tokens

* `readStructBody`, `readEnumBody`, `readUnionBody` — what follows the parameters of a declaration.
-/
import EntityTables.Source.AttributeReader
import EntityTables.Source.ParameterReader

namespace EntityTables.Source

set_option autoImplicit false

open Reading

/-- Where the next token stands. -/
def here : Reading Position := do return startOf (← upcoming)

/-- Whether the fields of a field without a name begin. -/
def startsFields (trees : List Tree) : Bool :=
  startsWord "struct" trees || startsWord "union" trees && startsGroup .brace (trees.drop 1)

/-- A field with a name. In place of the name may stand an underscore, and the field may then have
fields in place of a type. -/
def readNamedField (g : Grammar) : Reading Field := do
  let position ← here
  let found ← attributes g
  let _ ← readVisibility
  let namePosition ← here
  let nameless ← aheadWord "_"
  let name ← if nameless then anyWord else identifier
  punct [':']
  let typePosition ← here
  let type ← if nameless && (← ahead startsFields) then do
      let text ← spelled <| verbatim do
        let _ ← anyWord
        g.fields
      pure (.other text)
    else g.type true
  return ⟨position, found, name, namePosition, type, typePosition⟩

/-- The fields of a braced group. -/
def readNamedFields (g : Grammar) : Reading (List Field) :=
  inside .brace (commas (readNamedField g))

/-- The fields of a parenthesized group, which have no names. -/
def readNumberedFields (g : Grammar) : Reading Unit := do
  let _ ← inside .paren <| commas do
    skipAttributes g
    let _ ← readVisibility
    g.typeText

/-- A variant of an enumeration; its visibility is not spelled. -/
def readVariant (g : Grammar) : Reading Unit := do
  skipAttributes g
  let _ ← isolated readVisibility
  let _ ← identifier
  let trees ← upcoming
  if startsGroup .brace trees then let _ ← readNamedFields g
  else if startsGroup .paren trees then readNumberedFields g
  if ← optionalPunct ['='] then g.expression

/-- What follows the name and parameters of a struct. -/
def readStructBody (g : Grammar) : Reading Shape := do
  let conditioned ← readConditions g
  let trees ← upcoming
  if startsGroup .paren trees && !conditioned then
    readNumberedFields g
    let _ ← readConditions g
    punct [';']
    return .numbered (startOf trees)
  else if startsGroup .brace trees then return .named (← readNamedFields g)
  else
    punct [';']
    return .unit

/-- What follows the name and parameters of an enumeration. -/
def readEnumBody (g : Grammar) : Reading Shape := do
  let _ ← readConditions g
  let _ ← inside .brace (commas (readVariant g))
  return .choice

/-- What follows the name and parameters of a union. -/
def readUnionBody (g : Grammar) : Reading Shape := do
  let _ ← readConditions g
  let _ ← readNamedFields g
  return .choice

end EntityTables.Source
