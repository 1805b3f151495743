/-
# EntityTables.Source.AttributeReader — attributes and visibilities read from tokens

An attribute is a path in brackets behind a hash, and what the path is given: tokens in brackets, a
value behind an equals sign, or nothing. An attribute with an exclamation mark is about what
encloses it.

* `attributes`, `innerAttributes`, `readVisibility`.
-/
import EntityTables.Source.Item
import EntityTables.Source.PathReader

namespace EntityTables.Source

set_option autoImplicit false

open Reading

/-- The name of an attribute, if a single one names it. -/
def readAttributeName : Reading (Option String) := do
  if ← optionalWord "unsafe" then return some "unsafe"
  else
    match ← readPlainPath with
    | (false, [name]) => return some name
    | _ => return none

/-- The value of an attribute, which no other attribute may begin. -/
def readAttributeValue (g : Grammar) : Reading Unit := do
  let startsAttribute (trees : List Tree) : Bool :=
    startsPunct ['#'] trees && startsGroup .bracket (trees.drop 1)
  if accepts (do literal; require List.isEmpty) (← upcoming) then literal
  else if ← ahead startsAttribute then failure
  else g.expression

/-- What an attribute's brackets hold. -/
def readAttributeBody (g : Grammar) : Reading Attribute := do
  let name? ← readAttributeName
  match ← upcoming with
  | .group _ _ trees :: _ =>
    let _ ← anyGroup
    return ⟨name?, .list trees⟩
  | trees =>
    if startsPunct ['='] trees then
      punct ['=']
      readAttributeValue g
      return ⟨name?, .value⟩
    else return ⟨name?, .none⟩

/-- The attributes before something. -/
def attributes (g : Grammar) : Reading (List Attribute) := do
  let step := fun (found : List Attribute) => do
    if ← optionalPunct ['#'] then
      return .inl (found ++ [← inside .bracket (readAttributeBody g)])
    else return .inr found
  repeated step []

/-- The attributes before something, wherever only their text matters. -/
def skipAttributes (g : Grammar) : Reading Unit := do let _ ← attributes g

/-- The attributes at the beginning of a group that are about the whole. -/
def innerAttributes (g : Grammar) : Reading Unit := do
  let startsInner (trees : List Tree) : Bool :=
    startsPunct ['#'] trees && startsPunct ['!'] (trees.drop 1)
  many do
    if ← ahead startsInner then
      punct ['#']
      punct ['!']
      let _ ← inside .bracket (readAttributeBody g)
      return true
    else return false

/-- Whether a parenthesis restricts a visibility. -/
def restricts : List Tree → Bool
  | [.leaf _ (.word name)] => ["crate", "self", "super"].contains name
  | .leaf _ (.word name) :: _ => name == "in"
  | _ => false

/-- A visibility, if there is one, and whether there is. -/
def readVisibility : Reading Bool := do
  if ← optionalWord "pub" then
    match group? .paren (← upcoming) with
    | some (held, _) =>
      if restricts held then
        inside .paren do
          if ← optionalWord "in" then let _ ← readPlainPath
          else let _ ← anyWord
    | none => pure ()
    return true
  else return false

end EntityTables.Source
