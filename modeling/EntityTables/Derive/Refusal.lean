/-
# EntityTables.Derive.Refusal — why no entity is derived from a declaration

A declaration that is not well formed is told from one that is refused: a refusal has a cause and
the place it points at.
-/
import EntityTables.Schema.Error
import EntityTables.Source.Token

namespace EntityTables.Derive

set_option autoImplicit false

open EntityTables.Source (Position)

/-- Why a well-formed declaration is refused. -/
inductive Cause where
  | parameters
  | fieldsWithoutNames
  | unknownFieldAttribute
  | unknownStructAttribute
  | secondIdentity
  | bothRelations
  | identityAttributes
  | rawIdentity
  | identityType
  | noIdentity
  | schema (fault : SchemaError)
  /-- The adapter's source has tokens that cannot be read. -/
  | unreadableSource
  deriving DecidableEq, Inhabited

/-- The message of a refusal. -/
def Cause.message : Cause → String
  | parameters => "Entity cannot be derived for generic structs"
  | fieldsWithoutNames => "Entity can only be derived for structs with named fields"
  | unknownFieldAttribute => "unknown rowforge field attribute"
  | unknownStructAttribute => "unknown rowforge struct attribute"
  | secondIdentity => "only one field can be the identity"
  | bothRelations => "a field cannot be both one_to_one and one_to_many"
  | identityAttributes => "the identity field cannot take column, one_to_one or one_to_many"
  | rawIdentity => "the identity field cannot be a raw identifier"
  | identityType => "the identity field must be an i64"
  | noIdentity =>
      "Entity needs an i64 identity field: mark one with #[rowforge(id)] or name it \x60id\x60"
  | schema fault => fault.message
  | unreadableSource =>
      "rowforge generated invalid code: cannot parse string into token stream"

/-- Why no entity is derived. -/
inductive Fault where
  /-- The text is not the declaration of a type, or an attribute is not well formed. -/
  | malformed
  | refused (cause : Cause) (position : Position)
  deriving DecidableEq, Inhabited

end EntityTables.Derive
