/-
# EntityTables.Dispatcher — typed operations on the tables of registered types

Every operation looks up the adapter of its type first, so a type that was never registered fails
before any statement runs. Relations are never followed: a child is written with `insertChild`,
which fills in the reference to its parent, and read back with `queryChildren`.

* `createTable`, `insert`, `insertAll`, `update`, `updateEntity`, `delete` — writes.
* `queryTable`, `query`, `findById`, `queryChildren` — reads; a row that cannot become a record
  fails the whole query.
-/
import EntityTables.Session

namespace EntityTables.Dispatcher

set_option autoImplicit false

variable {σ : Type} [Gateway σ] {objects : Objects}

/-- The adapter of a type. -/
def adapter (path : String) : Action (Session σ) Instance :=
  Session.onRegistry (Registry.adapter path)

/-! ## Tables -/

/-- Creates the table of a type. -/
def createTable (path : String) : Action (Session σ) Unit := do
  let found ← adapter path
  Gateway.execute found.compiled.createStatement

/-- Removes the table of a type if it is there. -/
def dropTable (path : String) : Action (Session σ) Unit := do
  let found ← adapter path
  Gateway.execute found.compiled.dropStatement

/-- Creates the tables of all registered types: how many there are. -/
def createAll : Action (Session σ) Nat := do
  let all ← Session.onRegistry Registry.adapters
  all.forM fun found => Gateway.execute found.compiled.createStatement
  return all.length

/-- The table of a type. -/
def tableName (path : String) : Action (Session σ) String := do
  return (← adapter path).table

/-! ## Records and rows -/

/-- The column values of a record. -/
def toValues (entity : EntityType objects) (record : entity.Record) :
    Action (Session σ) RowValues := do
  let _ ← adapter entity.path
  Action.ofExcept (entity.encode record)

/-- The record of a row. -/
def fromRow (entity : EntityType objects) (row : Row) : Action (Session σ) entity.Record := do
  let _ ← adapter entity.path
  Action.ofExcept (entity.decode row)

/-- The records of rows. -/
def decodeAll (entity : EntityType objects) (rows : List Row) :
    Action (Session σ) (List entity.Record) :=
  Action.ofExcept (rows.mapM entity.decode)

/-! ## Writes -/

/-- Adds a record: its identity. -/
def insert (entity : EntityType objects) (record : entity.Record) : Action (Session σ) Int64 := do
  let found ← adapter entity.path
  Gateway.insertRow found.table (← Action.ofExcept (entity.encode record))

/-- Adds records, all or none: how many there are. -/
def insertAll (entity : EntityType objects) (records : List entity.Record) :
    Action (Session σ) Nat := do
  let found ← adapter entity.path
  Gateway.transaction do
    records.forM fun record => do
      let values ← Action.ofExcept (entity.encode record)
      let _ ← Gateway.insertRow (σ := Session σ) found.table values
    return records.length

/-- Changes columns of the records that meet a predicate: how many there are. -/
def update (path : String) (values : RowValues) (predicate : Predicate) :
    Action (Session σ) Nat := do
  let found ← adapter path
  Gateway.updateRows found.table values predicate

/-- Writes every mapped column of a record to the row of its identity. -/
def updateEntity (entity : EntityType objects) (record : entity.Record) :
    Action (Session σ) Nat := do
  let found ← adapter entity.path
  let values ← Action.ofExcept (entity.encode record)
  Gateway.updateRows found.table values (.byIdentity found.identity record.identity)

/-- Removes the records that meet a predicate: how many there are. -/
def delete (path : String) (predicate : Predicate) : Action (Session σ) Nat := do
  let found ← adapter path
  Gateway.deleteRows found.table predicate

/-! ## Reads -/

/-- The records that a statement selects. -/
def query (entity : EntityType objects) (text : String) (args : List Value) :
    Action (Session σ) (List entity.Record) := do
  let _ ← adapter entity.path
  decodeAll entity (← Gateway.rawQuery text args)

/-- The records that meet a predicate, perhaps in a given order. -/
def queryTable (entity : EntityType objects) (predicate : Predicate) (order? : Option String) :
    Action (Session σ) (List entity.Record) := do
  let found ← adapter entity.path
  decodeAll entity
    (← Gateway.queryRows found.table found.compiled.selectedColumns predicate order?)

/-- The record of an identity, if there is one. -/
def findById (entity : EntityType objects) (identity : Int64) :
    Action (Session σ) (Option entity.Record) := do
  let found ← adapter entity.path
  return (← queryTable entity (.byIdentity found.identity identity) none).head?

/-! ## Children -/

/-- The column by which records of a type refer to their parent. -/
def parentReference (found : Instance) : Except Error String :=
  match found.compiled.schema.parentReference? with
  | some column => .ok column.name
  | none => .error (.configuration (.noParent found.mapping.path))

/-- Adds a record that belongs to a parent: its identity. -/
def insertChild (entity : EntityType objects) (parent : Int64) (record : entity.Record) :
    Action (Session σ) Int64 := do
  let found ← adapter entity.path
  let reference ← Action.ofExcept (parentReference found)
  let values ← Action.ofExcept (entity.encode record)
  Gateway.insertRow found.table (values.put reference (.integer parent))

/-- The records that belong to a parent, in the order of their identities. -/
def queryChildren (entity : EntityType objects) (parent : Int64) :
    Action (Session σ) (List entity.Record) := do
  let found ← adapter entity.path
  let reference ← Action.ofExcept (parentReference found)
  queryTable entity (.columnEquals reference (.integer parent))
    (some (Sql.quoteName found.identity))

end EntityTables.Dispatcher
