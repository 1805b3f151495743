/-
# EntityTables.Toml.Basic — what a settings file says

A document is a table, and a table gives nodes to its keys: values, tables, and tables in a row. It
is built up section by section, each under a header. A table can be stated by a header, come about
because a header passes through it, or come about because a key with points leads into it; what has
been stated in one way is not gone on with in another, and nothing is given twice.

* `Value`, `Section` — what is written; `Node`, `Table` — what it amounts to.
* `Table.ofEntries?`, `Table.ofSections?` — the table of some entries, of sections.
-/
import EntityTables.Binary.Number
import EntityTables.Toml.Moment

namespace EntityTables.Toml

set_option autoImplicit false

/-- A value of a settings file. -/
inductive Value where
  | text (s : String)
  | integer (i : Int)
  | real (x : Double)
  | boolean (b : Bool)
  | moment (m : Moment)
  | array (items : List Value)
  /-- A table in braces, as its entries are written. -/
  | table (entries : List (List String × Value))
  deriving Inhabited

/-- Keys with their values, as they are written. A key may be a path into nested tables. -/
abbrev Entries := List (List String × Value)

/-- A part of a document under one header, which is empty before the first. A repeated header adds a
table to a row. -/
structure Section where
  header : List String
  repeated : Bool
  entries : Entries
  deriving Inhabited

/-- How a table has come about. -/
inductive Origin where
  /-- By its own header. -/
  | stated
  /-- By a header that leads through it. -/
  | passed
  /-- By a key that leads into it. -/
  | dotted
  deriving DecidableEq, Inhabited

/-- What a key of a table has. -/
inductive Node where
  | value (v : Value)
  | table (origin : Origin) (entries : List (String × Node))
  /-- Tables under one repeated header, the latest first. -/
  | row (tables : List (List (String × Node)))
  deriving Inhabited

/-- A table in the making. -/
structure Table where
  origin : Origin
  entries : List (String × Node)
  deriving Inhabited

namespace Table

/-- The table of no entries. -/
def empty (origin : Origin) : Table := ⟨origin, []⟩

/-- What a key has. -/
def get? (table : Table) (key : String) : Option Node := table.entries.lookup key

/-- Gives a node to a key, in place of what it has. -/
def set (table : Table) (key : String) (node : Node) : Table :=
  { table with entries := replace table.entries }
where
  /-- The entries with the one of the key replaced or added at the end. -/
  replace : List (String × Node) → List (String × Node)
    | [] => [(key, node)]
    | entry :: rest =>
      if entry.1 = key then (key, node) :: rest else entry :: replace rest

/-- Changes the table at the end of a path. Tables that are not there yet come about on the way, and
of tables in a row the latest is meant. A key does not lead into a table that was stated. -/
def changeAt? (dotted : Bool) (change : Table → Option Table) :
    List String → Table → Option Table
  | [], table => change table
  | key :: path, table =>
    match table.get? key with
    | none => do
      let inner ← changeAt? dotted change path (empty (if dotted then .dotted else .passed))
      return table.set key (.table inner.origin inner.entries)
    | some (.table origin entries) =>
      if dotted ∧ origin = .stated then none
      else do
        let inner ← changeAt? dotted change path ⟨origin, entries⟩
        return table.set key (.table inner.origin inner.entries)
    | some (.row (latest :: earlier)) => do
      let inner ← changeAt? dotted change path ⟨.stated, latest⟩
      return table.set key (.row (inner.entries :: earlier))
    | some _ => none

/-- Adds an entry. A key with points ends in a table that such keys have made, and nothing is given
twice. -/
def add? (table : Table) (entry : List String × Value) : Option Table :=
  let path := entry.1.dropLast
  changeAt? (path ≠ [])
    (fun inner =>
      let key := entry.1.getLastD ""
      if (inner.origin = .dotted) = (path ≠ []) ∧ (inner.get? key).isNone then
        some (inner.set key (.value entry.2))
      else none)
    path table

/-- The table of entries. -/
def ofEntries? (entries : Entries) : Option Table := entries.foldlM add? (empty .stated)

/-- Adds the table of a section under its own key. -/
def addSection? (key : String) (part : Section) (table : Table) : Option Table :=
  if part.repeated then do
    let new ← ofEntries? part.entries
    match table.get? key with
    | none => return table.set key (.row [new.entries])
    | some (.row tables) => return table.set key (.row (new.entries :: tables))
    | some _ => none
  else do
    let known ← match table.get? key with
      | none => some []
      | some (.table .passed entries) => some entries
      | some _ => none
    let new ← part.entries.foldlM add? ⟨.stated, known⟩
    return table.set key (.table .stated new.entries)

/-- The table of a document's sections. -/
def ofSections? (sections : List Section) : Option Table :=
  sections.foldlM
    (fun table part =>
      match part.header.getLast? with
      | none => part.entries.foldlM add? table
      | some key => changeAt? false (addSection? key part) part.header.dropLast table)
    (empty .stated)

end Table

end EntityTables.Toml
