/-
# EntityTables.Source.Item — the declarations of types

A declaration of a struct, an enumeration or a union, as far as an entity depends on it: its
attributes, its name, whether it has parameters, and its fields with their types.
-/
import EntityTables.Source.Token
import EntityTables.Source.TypeExpr

namespace EntityTables.Source

set_option autoImplicit false

/-- What stands behind the path of an attribute. -/
inductive AttributeInput where
  | none
  /-- A value behind an equals sign. -/
  | value
  /-- Tokens in brackets of any kind. -/
  | list (trees : List Tree)
  deriving Inhabited

/-- An attribute: its name, unless a longer path names it, and what it is given. -/
structure Attribute where
  name? : Option String
  input : AttributeInput
  deriving Inhabited

/-- A field with a name. A field begins with its first attribute, if it has one. -/
structure Field where
  position : Position
  attributes : List Attribute
  name : String
  namePosition : Position
  type : TypeExpr
  typePosition : Position
  deriving Inhabited

/-- The shape of a declaration. -/
inductive Shape where
  /-- A struct whose fields have names. -/
  | named (fields : List Field)
  /-- A struct whose fields have numbers; where its parenthesis opens. -/
  | numbered (position : Position)
  /-- A struct without fields. -/
  | unit
  /-- An enumeration or a union. -/
  | choice
  deriving Inhabited

/-- The declaration of a type. -/
structure Item where
  attributes : List Attribute
  name : String
  namePosition : Position
  /-- Where the parameters open, if there are any. -/
  parameters? : Option Position
  shape : Shape
  deriving Inhabited

/-- Where the first of some tokens stands, or the origin if there is none. -/
def startOf (trees : List Tree) : Position := (trees.head?.map Tree.position).getD .origin

/-- Whether a word was written as a raw identifier. -/
def isRaw (word : String) : Bool := word.toList.take 2 == ['r', '#']

/-- A word without the mark of a raw identifier. -/
def withoutRaw (word : String) : String :=
  if isRaw word then String.ofList (word.toList.drop 2) else word

end EntityTables.Source
