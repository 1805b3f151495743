/-
# EntityTables.Proofs.Gateway.Requests — what the texts of row operations ask for

A gateway sends a text with placeholders, and values for them beside it. The text is one statement
on the table that was meant, with the columns in their order and the equalities of the predicate;
and text and values keep step: each value belongs to the column whose placeholder it stands for.

* `RowRequest` — an operation on rows; its text, the values bound to it and the statement meant.
* `columnOperands` — the columns of a statement with what stands for each of them.
* `Statement.columnOperands_bind` — the cells that are bound to a statement are those of its columns.
* `RowRequest.reads_back` — the text is the statement, and the values belong to its columns.
-/
import EntityTables.Proofs.Gateway.Connection
import EntityTables.Proofs.Sql.Conditions

namespace EntityTables

set_option autoImplicit false

open Sql

/-! ## Columns and what stands for them -/

namespace Sql

/-- The columns that a condition compares, with their operands, from left to right. -/
def Condition.columnOperands {α : Type} : Condition ColumnName α → List (String × α)
  | .compare column _ operand => [(column.name, operand)]
  | .isNull _ | .isNotNull _ => []
  | .and left right | .or left right => left.columnOperands ++ right.columnOperands

/-- The columns that a statement gives values or compares, with their operands, in the order in
which the text has them. -/
def Statement.columnOperands {α : Type} : Statement α → List (String × α)
  | .createTable _ _ | .dropTable _ => []
  | .insert _ values => values
  | .update _ assignments condition? =>
    assignments ++ (condition?.map Condition.columnOperands).getD []
  | .delete _ condition? | .select _ _ condition? _ =>
    (condition?.map Condition.columnOperands).getD []

theorem Condition.columnOperands_conjuncts {α : Type} (condition : Condition ColumnName α) :
    condition.columnOperands = condition.conjuncts.flatMap Condition.columnOperands := by
  induction condition with
  | and left right first second =>
    rw [columnOperands, conjuncts, List.flatMap_append, first, second]
  | _ => simp [conjuncts]

/-- The columns that equalities compare are theirs. -/
theorem columnOperands_of_conjuncts {condition? : Option (Condition ColumnName Operand)}
    {equalities : List (String × Value)}
    (asked : Predicate.conjuncts condition? = equalities.map (fun equality =>
      .compare (columnNameOf equality.1) .equal .placeholder)) :
    (condition?.map Condition.columnOperands).getD [] =
      equalities.map fun equality => (equality.1, .placeholder) := by
  have whole : (condition?.map Condition.columnOperands).getD [] =
      (Predicate.conjuncts condition?).flatMap Condition.columnOperands := by
    cases condition? with
    | none => rfl
    | some condition => exact condition.columnOperands_conjuncts
  rw [whole, asked, List.flatMap_map]
  exact List.map_eq_flatMap.symm

/-- The placeholders of a condition take the cells given for its columns, one after the other. -/
theorem columnOperands_replace {condition : Condition ColumnName Operand}
    {pairs : List (String × Cell)} (rest : List Cell)
    (vacant : condition.columnOperands = pairs.map fun pair => (pair.1, .placeholder)) :
    ∃ bound, (condition.replace pure Statement.takeCell).run (pairs.map Prod.snd ++ rest) =
      (bound, rest) ∧ bound.columnOperands = pairs := by
  induction condition generalizing pairs rest with
  | compare column comparison operand =>
    obtain ⟨⟨name, cell⟩, rfl, same⟩ := List.map_eq_singleton_iff.mp vacant.symm
    obtain ⟨rfl, rfl⟩ := Prod.mk.inj same
    exact ⟨.compare column comparison cell, rfl, rfl⟩
  | isNull column =>
    obtain rfl := List.map_eq_nil_iff.mp vacant.symm
    exact ⟨.isNull column, rfl, rfl⟩
  | isNotNull column =>
    obtain rfl := List.map_eq_nil_iff.mp vacant.symm
    exact ⟨.isNotNull column, rfl, rfl⟩
  | and left right first second =>
    obtain ⟨before, behind, rfl, here, there⟩ := List.map_eq_append_iff.mp vacant.symm
    obtain ⟨one, taken, columns⟩ := first (behind.map Prod.snd ++ rest) here.symm
    obtain ⟨other, more, others⟩ := second rest there.symm
    refine ⟨.and one other, ?_, ?_⟩
    · rw [List.map_append, List.append_assoc]
      simp only [Condition.replace, StateT.run_bind, taken]
      exact congrArg (fun made : Condition ColumnName Cell × List Cell =>
        (one.and made.1, made.2)) more
    · rw [Condition.columnOperands, columns, others]
  | or left right first second =>
    obtain ⟨before, behind, rfl, here, there⟩ := List.map_eq_append_iff.mp vacant.symm
    obtain ⟨one, taken, columns⟩ := first (behind.map Prod.snd ++ rest) here.symm
    obtain ⟨other, more, others⟩ := second rest there.symm
    refine ⟨.or one other, ?_, ?_⟩
    · rw [List.map_append, List.append_assoc]
      simp only [Condition.replace, StateT.run_bind, taken]
      exact congrArg (fun made : Condition ColumnName Cell × List Cell =>
        (one.or made.1, made.2)) more
    · rw [Condition.columnOperands, columns, others]

/-- The placeholders at the end of a statement take the cells given for its columns. -/
theorem columnOperands_replaceCondition {condition? : Option (Condition ColumnName Operand)}
    {pairs : List (String × Cell)}
    (vacant : (condition?.map Condition.columnOperands).getD [] =
      pairs.map fun pair => (pair.1, .placeholder)) :
    (((Statement.replaceCondition Statement.takeCell condition?).run
      (pairs.map Prod.snd)).1.map Condition.columnOperands).getD [] = pairs := by
  cases condition? with
  | none =>
    obtain rfl := List.map_eq_nil_iff.mp vacant.symm
    rfl
  | some condition =>
    obtain ⟨bound, taken, columns⟩ := columnOperands_replace [] vacant
    rw [List.append_nil] at taken
    have made : ((Statement.replaceCondition Statement.takeCell (some condition)).run
        (pairs.map Prod.snd)).1 =
          some ((condition.replace pure Statement.takeCell).run (pairs.map Prod.snd)).1 := rfl
    rw [made, taken]
    exact columns

/-- Each cell that is bound to a statement belongs to the column of its placeholder. -/
theorem Statement.columnOperands_bind {statement : Statement Operand}
    {pairs : List (String × Cell)}
    (vacant : statement.columnOperands = pairs.map fun pair => (pair.1, .placeholder)) :
    (statement.bind (pairs.map Prod.snd)).columnOperands = pairs := by
  cases statement with
  | createTable spelling definition => exact (List.map_eq_nil_iff.mp vacant.symm).symm
  | dropTable table => exact (List.map_eq_nil_iff.mp vacant.symm).symm
  | insert table values =>
    have taken := replaceValues_placeholders pairs []
    rw [List.append_nil] at taken
    rw [show values = _ from vacant]
    exact congrArg Prod.fst taken
  | update table assignments condition? =>
    obtain ⟨before, behind, rfl, here, there⟩ := List.map_eq_append_iff.mp vacant.symm
    have taken := replaceValues_placeholders before (behind.map Prod.snd)
    have rest := columnOperands_replaceCondition there.symm
    have bound : (Statement.update table (before.map fun pair => (pair.1, .placeholder))
        condition?).bind (before.map Prod.snd ++ behind.map Prod.snd) =
          .update table before
            ((replaceCondition takeCell condition?).run (behind.map Prod.snd)).1 :=
      congrArg (fun made : List (String × Cell) × List Cell =>
        update table made.1 ((replaceCondition takeCell condition?).run made.2).1) taken
    rw [← here, List.map_append, bound, columnOperands, rest]
  | delete table condition? => exact columnOperands_replaceCondition vacant
  | select columns table condition? order => exact columnOperands_replaceCondition vacant

/-- Commas add no placeholder. -/
theorem count_commas (items : List (List Token)) :
    ([Token.sign .comma].intercalate items).count .placeholder =
      (items.map (List.count .placeholder)).sum := by
  induction items with
  | nil => rfl
  | cons first rest ih =>
    cases rest with
    | nil => simp
    | cons second others =>
      rw [List.intercalate_cons_cons, List.count_append, List.count_append, ih]
      simp

theorem count_nameTokens (names : List String) :
    (nameTokens names).count .placeholder = 0 := by
  have none (name : String) : [nameToken name].count .placeholder = 0 := by
    simp [nameToken_ne_placeholder]
  simp [nameTokens, count_commas, Function.comp_def, none]

theorem count_insertTokens (table : String) (names : List String) :
    (insertTokens table names).count .placeholder = names.length := by
  unfold insertTokens
  split
  · next none => simp [none, nameToken_ne_placeholder]
  · simp [List.count_append, count_nameTokens, count_commas, nameToken_ne_placeholder]

theorem count_updateTokens (table : String) (names : List String) :
    (updateTokens table names).count .placeholder = names.length := by
  have one (name : String) :
      [nameToken name, .sign .equal, .placeholder].count .placeholder = 1 := by
    simp [nameToken_ne_placeholder]
  simp [updateTokens, assignmentTokens, count_commas, nameToken_ne_placeholder,
    Function.comp_def, one]

theorem count_deleteTokens (table : String) :
    (deleteTokens table).count .placeholder = 0 := by
  simp [deleteTokens, nameToken_ne_placeholder]

theorem count_selectTokens (table : String) (names : List String) :
    (selectTokens table names).count .placeholder = 0 := by
  unfold selectTokens
  split
  · simp [nameToken_ne_placeholder]
  · simp [List.count_append, count_nameTokens, nameToken_ne_placeholder]

end Sql

/-! ## Requests -/

/-- An operation on the rows of a table. -/
inductive RowRequest where
  | insert (table : String) (values : RowValues)
  | update (table : String) (values : RowValues) (predicate : Predicate)
  | delete (table : String) (predicate : Predicate)
  /-- A search for some columns, or for all if none is named, in no given order. -/
  | query (table : String) (columns : List String) (predicate : Predicate)

namespace RowRequest

/-- What a gateway does for a request. -/
def perform : RowRequest → Action Connection Unit
  | insert table values => do let _ ← Gateway.insertRow table values
  | update table values predicate => do let _ ← Gateway.updateRows table values predicate
  | delete table predicate => do let _ ← Gateway.deleteRows table predicate
  | query table columns predicate => do let _ ← Gateway.queryRows table columns predicate none

/-- The text that is sent for a request. -/
def text : RowRequest → String
  | insert table values => insertText table values.columns
  | update table values predicate => updateText table values.columns predicate
  | delete table predicate => deleteText table predicate
  | query table columns predicate => selectText table columns predicate none

/-- The values that are sent with the text. -/
def bound : RowRequest → List Value
  | insert _ values => values.values
  | update _ values predicate => values.values ++ predicate.args
  | delete _ predicate | query _ _ predicate => predicate.args

/-- The rows that a request is about; an addition is about none that are there. -/
def predicate : RowRequest → Predicate
  | insert _ _ => .all
  | update _ _ predicate | delete _ predicate | query _ _ predicate => predicate

/-- The columns that a request gives values. -/
def given : RowRequest → List (String × Value)
  | insert _ values | update _ values _ => values.entries
  | delete _ _ | query _ _ _ => []

/-- The names in a request besides those of its predicate. -/
def names : RowRequest → List String
  | insert table values | update table values _ => table :: values.columns
  | delete table _ => [table]
  | query table columns _ => table :: columns

/-- Whether a request is a change of no column, for which nothing is sent. -/
def isVoid : RowRequest → Bool
  | update _ values _ => values.isEmpty
  | _ => false

/-- The statement that is meant, where the rows are those of a condition. -/
def statement (condition? : Option (Condition ColumnName Operand)) :
    RowRequest → Statement Operand
  | insert table values => .insert table (values.columns.map fun name => (name, .placeholder))
  | update table values _ =>
    .update table (values.columns.map fun name => (name, .placeholder)) condition?
  | delete table _ => .delete table condition?
  | query table columns _ => .select (columns.map columnNameOf) table condition? []

/-- A request is its text, run with its values. -/
theorem perform_snd {request : RowRequest} (some : request.isVoid = false)
    (connection : Connection) :
    (request.perform connection).2 = (Connection.run request.text request.bound connection).2 := by
  have alone {α : Type} (action : Action Connection α) :
      ((action >>= fun _ => pure ()) connection).2 = (action connection).2 :=
    Action.bind_snd (fun _ _ => rfl) connection
  cases request with
  | insert table values => exact (alone _).trans (Connection.identity_snd _ _ _)
  | update table values predicate =>
    refine (alone _).trans ?_
    show ((if values.isEmpty then (pure 0 : Action Connection Nat)
      else Connection.count _ _) connection).2 = _
    rw [if_neg (by simpa [isVoid] using some)]
    exact Connection.count_snd _ _ _
  | delete table predicate => exact (alone _).trans (Connection.count_snd _ _ _)
  | query table columns predicate => exact (alone _).trans (Connection.rows_snd _ _ _)

variable {request : RowRequest} {equalities : List (String × Value)} {ts : List Token}
  {condition? : Option (Condition ColumnName Operand)}

/-- The tokens of a request, with those of its predicate behind them. -/
def tokens (request : RowRequest) (ts : List Token) : List Token :=
  match request with
  | insert table values => insertTokens table values.columns
  | update table values _ => updateTokens table values.columns ++ ts
  | delete table _ => deleteTokens table ++ ts
  | query table columns _ => selectTokens table columns ++ ts

/-- The text of a request is its tokens and nothing else. -/
theorem writes_text (some : request.isVoid = false)
    (free : ∀ name ∈ request.names, '\x00' ∉ name.toList)
    (means : request.predicate.Means ts condition?) : Writes request.text (request.tokens ts) := by
  cases request with
  | insert table values =>
    exact writes_insertText (free _ List.mem_cons_self)
      fun name member => free name (.tail _ member)
  | update table values predicate =>
    exact (writes_updateFront (free _ List.mem_cons_self) (RowValues.columns_ne_nil some)
      fun name member => free name (.tail _ member)).where means
  | delete table predicate => exact (writes_deleteFront (free _ List.mem_cons_self)).where means
  | query table columns predicate =>
    rw [text, selectText_eq, append_orderText_none]
    exact (writes_selectFront (free _ List.mem_cons_self)
      fun name member => free name (.tail _ member)).where means

/-- The text of a request is the statement that is meant, and no other. -/
theorem script_text (some : request.isVoid = false)
    (free : ∀ name ∈ request.names, '\x00' ∉ name.toList)
    (means : request.predicate.Means ts condition?) :
    script request.text = [.some (request.statement condition?)] := by
  cases request with
  | insert table values =>
    exact script_insertText (free _ List.mem_cons_self)
      fun name member => free name (.tail _ member)
  | update table values predicate =>
    exact script_updateText (free _ List.mem_cons_self) (RowValues.columns_ne_nil some)
      (fun name member => free name (.tail _ member)) means
  | delete table predicate => exact script_deleteText (free _ List.mem_cons_self) means
  | query table columns predicate =>
    have single : script (selectText table columns predicate (Option.none.map quoteName)) =
        [.some (.select (columns.map columnNameOf) table condition? (orderKeys none))] :=
      script_selectText (free table List.mem_cons_self)
        (fun name member => free name (.tail _ member)) means nofun
    rw [Option.map_none] at single
    exact single

/-- A request binds the values that it gives, and then those of its predicate. -/
theorem bound_eq (args : request.predicate.args = equalities.map Prod.snd) :
    request.bound = (request.given ++ equalities).map Prod.snd := by
  cases request with
  | insert table values =>
    have none : equalities = [] := List.map_eq_nil_iff.mp args.symm
    simp [bound, given, RowValues.values, none]
  | update table values predicate =>
    have behind : predicate.args = equalities.map Prod.snd := args
    simp [bound, given, RowValues.values, behind]
  | delete table predicate => exact args
  | query table columns predicate => exact args

/-- A request gives placeholders to the columns that it gives values, and then to those of its
predicate. -/
theorem columnOperands_statement
    (asked : Predicate.conjuncts condition? = equalities.map (fun equality =>
      .compare (columnNameOf equality.1) .equal .placeholder))
    (args : request.predicate.args = equalities.map Prod.snd) :
    (request.statement condition?).columnOperands =
      (request.given ++ equalities).map fun entry => (entry.1, .placeholder) := by
  have behind := columnOperands_of_conjuncts asked
  cases request with
  | insert table values =>
    have none : equalities = [] := List.map_eq_nil_iff.mp args.symm
    simp [statement, Statement.columnOperands, given, RowValues.columns, none]
  | update table values predicate =>
    simp [statement, Statement.columnOperands, given, RowValues.columns, behind]
  | delete table predicate => exact behind
  | query table columns predicate => exact behind

/-- A request has a placeholder for each value that it gives and each that its predicate binds. -/
theorem count_tokens (args : request.predicate.args = equalities.map Prod.snd)
    (counted : ts.count .placeholder = equalities.length) :
    (request.tokens ts).count .placeholder = (request.given ++ equalities).length := by
  cases request with
  | insert table values =>
    have none : equalities = [] := List.map_eq_nil_iff.mp args.symm
    simp [tokens, count_insertTokens, given, RowValues.columns, none]
  | update table values predicate =>
    simp [tokens, List.count_append, count_updateTokens, given, RowValues.columns, counted]
  | delete table predicate =>
    simp [tokens, List.count_append, count_deleteTokens, given, counted]
  | query table columns predicate =>
    simp [tokens, List.count_append, count_selectTokens, given, counted]

/-- The text of a request is the one statement that is meant: on its table, with its columns in
their order, and with a condition that joins exactly the equalities of its predicate by AND. It has
one placeholder for each value that is bound, and each value belongs to the column whose
placeholder it is bound to. -/
theorem reads_back (some : request.isVoid = false)
    (free : ∀ name ∈ request.names, '\x00' ∉ name.toList)
    (joins : request.predicate.Joins equalities)
    (clean : ∀ equality ∈ equalities, '\x00' ∉ equality.1.toList) :
    ∃ condition?, script request.text = [.some (request.statement condition?)] ∧
      Predicate.conjuncts condition? = equalities.map (fun equality =>
        .compare (columnNameOf equality.1) .equal .placeholder) ∧
      (condition? = none ↔ request.predicate = .all) ∧
      (Sql.tokens request.text).count .placeholder = request.bound.length ∧
      request.bound = (request.given ++ equalities).map Prod.snd ∧
      (request.statement condition?).columnOperands =
        (request.given ++ equalities).map (fun entry => (entry.1, .placeholder)) ∧
      ((request.statement condition?).bind (request.bound.map Cell.ofValue)).columnOperands =
        (request.given ++ equalities).map (fun entry => (entry.1, Cell.ofValue entry.2)) ∧
      ∀ connection, (request.perform connection).2 =
        (Connection.run request.text request.bound connection).2 := by
  obtain ⟨ts, condition?, means, asked, args, counted⟩ := joins.means clean
  have bound := bound_eq args
  have columns := columnOperands_statement asked args
  have written := (writes_text some free means).tokens_eq
  refine ⟨condition?, script_text some free means, asked, means.none_iff, ?_, bound, columns, ?_,
    perform_snd some⟩
  · rw [written, count_tokens args counted, bound, List.length_map]
  · have cells : request.bound.map Cell.ofValue =
        ((request.given ++ equalities).map fun entry => (entry.1, Cell.ofValue entry.2)).map
          Prod.snd := by
      rw [bound, List.map_map, List.map_map]
      rfl
    rw [cells]
    refine Statement.columnOperands_bind ?_
    rw [columns, List.map_map]
    rfl

/-- A change whose names have in them what statements are made of. -/
def awkward : RowRequest :=
  .update "order" ⟨[("a?", .integer 1), ("x) AND (y = ?", .text "?")], by decide⟩
    (((Predicate.byIdentity "id" 7).and .all).and
      ((Predicate.columnEquals "say \"?\"" .null).and (.columnEquals "SELECT" (.text "')"))))

/-- It sets two columns where three columns have their values. -/
theorem reads_back_awkward :
    awkward.isVoid = false ∧ (∀ name ∈ awkward.names, '\x00' ∉ name.toList) ∧
      ∃ condition?, script awkward.text = [some (.update "order"
          [("a?", .placeholder), ("x) AND (y = ?", .placeholder)] condition?)] ∧
        Predicate.conjuncts condition? = [.compare (columnNameOf "id") .equal .placeholder,
          .compare (columnNameOf "say \"?\"") .equal .placeholder,
          .compare (columnNameOf "SELECT") .equal .placeholder] ∧
        (Sql.tokens awkward.text).count .placeholder = 5 ∧
        awkward.bound = [.integer 1, .text "?", .integer 7, .null, .text "')"] := by
  have joins : awkward.predicate.Joins
      ((("id", .integer 7) :: []) ++ [] ++ ([("say \"?\"", .null)] ++ [("SELECT", .text "')")])) :=
    .and (.and (.byIdentity "id" 7) .all) (.and (.equals _ _) (.equals _ _))
  have some : awkward.isVoid = false := by decide
  have free : ∀ name ∈ awkward.names, '\x00' ∉ name.toList := by decide
  obtain ⟨condition?, read, asked, -, counted, bound, -⟩ :=
    reads_back some free joins (by decide)
  exact ⟨some, free, condition?, read, asked, counted, bound⟩

end RowRequest

end EntityTables
