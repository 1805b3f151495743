/-
# EntityTables.Content.Access — rows by content identifier

Works on whatever table an identifier leads to, if the table is that of a registered type. Rows are
added to tables only; an identifier of a row narrows every other operation to it.

* `resolve` — where an identifier leads; `insert`, `bulkInsert`, `query`, `update`, `delete`.
-/
import EntityTables.Content.Uri
import EntityTables.Dispatcher

namespace EntityTables.ContentAccess

set_option autoImplicit false

variable {σ : Type} [Gateway σ]

/-- The identifier of a type's table. -/
def contentUri (authority path : String) : Action (Session σ) String := do
  return (ContentUri.collection authority (← Dispatcher.adapter path).table).text

/-- The identifier of a row of a type's table. -/
def rowUri (authority path : String) (identity : Int64) : Action (Session σ) String := do
  return (ContentUri.row authority (← Dispatcher.adapter path).table identity).text

/-- The adapter and the rows that an identifier leads to: its authority must be the given one, and
its table that of a registered type. -/
def resolve (authority uri : String) : Action (Session σ) (Instance × RowSelector) := do
  let parsed ← Action.ofExcept (ContentUri.parse uri)
  if parsed.authority = authority then
    match ← Session.onRegistry (Registry.findTable parsed.table) with
    | some found => return (found, parsed.selector)
    | none => throw (.unknownUri uri)
  else throw (.unknownUri uri)

/-- The adapter of the table that an identifier leads to; that of a row is refused. -/
def collection (authority uri : String) : Action (Session σ) Instance := do
  match ← resolve authority uri with
  | (found, .all) => return found
  | (_, .row _) => throw (.unknownUri uri)

/-- A predicate narrowed to the rows that an identifier is about. -/
def narrowed (found : Instance) (selector : RowSelector) (predicate : Predicate) : Predicate :=
  match selector with
  | .all => predicate
  | .row identity => (Predicate.byIdentity found.identity identity).and predicate

/-- Adds a row to a table: the identifier of the row. -/
def insert (authority uri : String) (values : RowValues) : Action (Session σ) String := do
  let found ← collection authority uri
  let identity ← Gateway.insertRow found.table values
  return (ContentUri.row authority found.table identity).text

/-- Adds rows to a table, all or none: how many there are. -/
def bulkInsert (authority uri : String) (rows : List RowValues) : Action (Session σ) Nat := do
  let found ← collection authority uri
  Gateway.transaction do
    rows.forM fun values => do
      let _ ← Gateway.insertRow (σ := Session σ) found.table values
    return rows.length

/-- Some columns of the rows that an identifier is about and that meet a predicate. -/
def query (authority uri : String) (columns : List String) (predicate : Predicate)
    (order? : Option String) : Action (Session σ) (List Row) := do
  let (found, selector) ← resolve authority uri
  Gateway.queryRows found.table columns (narrowed found selector predicate) order?

/-- Changes the rows that an identifier is about and that meet a predicate: how many there are. -/
def update (authority uri : String) (values : RowValues) (predicate : Predicate) :
    Action (Session σ) Nat := do
  let (found, selector) ← resolve authority uri
  Gateway.updateRows found.table values (narrowed found selector predicate)

/-- Removes the rows that an identifier is about and that meet a predicate: how many there are. -/
def delete (authority uri : String) (predicate : Predicate) : Action (Session σ) Nat := do
  let (found, selector) ← resolve authority uri
  Gateway.deleteRows found.table (narrowed found selector predicate)

end EntityTables.ContentAccess
