/-
# EntityTables.Schema.Error — why a schema is refused

Four structural faults and one of mapping. Each names the entity or field at fault; `message` is
their one wording.
-/
import EntityTables.Schema.DeclaredType

namespace EntityTables

set_option autoImplicit false

/-- Why a schema is refused. -/
inductive SchemaError where
  | emptyTarget
  | emptyIdentity (target : String)
  | duplicateColumn (target column : String)
  | identityCollision (target column : String)
  | unmappedType (field : String) (declared : DeclaredType)
  deriving DecidableEq, Inhabited

namespace SchemaError

/-- The wording of a refusal. -/
def message : SchemaError → String
  | emptyTarget => "Schema has no target type"
  | emptyIdentity target => "Schema for " ++ target ++ " has no identity column"
  | duplicateColumn target column =>
      "Column '" ++ column ++ "' is declared more than once on " ++ target
  | identityCollision target column =>
      "Column '" ++ column ++ "' on " ++ target ++ " collides with the identity column"
  | unmappedType field declared =>
      "Field '" ++ field ++ "' has type " ++ declared.description ++ " which has no SQL mapping"

end SchemaError

end EntityTables
