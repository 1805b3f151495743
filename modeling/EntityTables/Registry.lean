/-
# EntityTables.Registry — the types that are known, and their adapters

A type must be registered before its adapter can be had. The adapter is compiled when it is first
asked for and is the same one from then on; what was compiled never changes an answer.

* `Instance` — an adapter with the number that tells it from any other.
* `Registry.register`, `adapter`, `adapters`, `findTable` — the operations.
-/
import EntityTables.Entity.Basic
import EntityTables.Gateway.Basic

namespace EntityTables

set_option autoImplicit false

/-- An adapter as a registry holds it. -/
structure Instance where
  /-- Tells the adapter from any other of the registry. -/
  number : Nat
  mapping : Mapping
  compiled : Compiled
  deriving DecidableEq, Inhabited

namespace Instance

/-- The table of the type. -/
def table (found : Instance) : String := found.compiled.schema.table

/-- The identity column of the type. -/
def identity (found : Instance) : String := found.compiled.schema.identity

/-- Whether the table of one adapter is not behind that of another. -/
def tableLe (a b : Instance) : Bool := decide (a.table ≤ b.table)

end Instance

/-- The registered types, and the adapters compiled so far. -/
structure Registry where
  registered : List Mapping
  compiled : List Instance
  deriving Inhabited

namespace Registry

/-- No type is registered. -/
def empty : Registry := ⟨[], []⟩

/-- The registered type of a path. -/
def find? (registry : Registry) (path : String) : Option Mapping :=
  registry.registered.find? fun mapping => mapping.path == path

/-- The adapter of a path, if it has been compiled. -/
def compiled? (registry : Registry) (path : String) : Option Instance :=
  registry.compiled.find? fun found => found.mapping.path == path

/-- Makes a type known; to do so again changes nothing. -/
def register (mapping : Mapping) : Action Registry Unit :=
  modify fun registry =>
    if (registry.find? mapping.path).isSome then registry
    else { registry with registered := registry.registered ++ [mapping] }

/-- Whether a type is known. -/
def isRegistered (path : String) : Action Registry Bool := do
  return ((← get).find? path).isSome

/-- The adapter of a type, compiled if it has not been yet. -/
def adapter (path : String) : Action Registry Instance := do
  let registry ← get
  match registry.compiled? path with
  | some found => return found
  | none =>
    match registry.find? path with
    | none => throw (.configuration (.unregistered path))
    | some mapping =>
      match mapping.compile with
      | .error fault => throw (.schema fault)
      | .ok compiled =>
        let made : Instance := ⟨registry.compiled.length, mapping, compiled⟩
        set { registry with compiled := registry.compiled ++ [made] }
        return made

/-- The adapters of all registered types, ordered by table. -/
def adapters : Action Registry (List Instance) := do
  let found ← (← get).registered.mapM fun mapping => adapter mapping.path
  return found.mergeSort Instance.tableLe

/-- The adapter of a table. -/
def findTable (table : String) : Action Registry (Option Instance) := do
  return (← adapters).find? fun found => found.table == table

end Registry

end EntityTables
