/-
# EntityTables.Proofs.Sql.Statements — the statements of row operations read back

The text of an insertion, a change, a removal or a search is the statement that it is meant to be,
for all names without NUL and every predicate whose clause is a condition.

* `Predicate.Means` — the condition that a predicate's clause is.
* `readStatement_update`, `_delete`, `_select` — statements with any condition behind them.
* `script_insertText`, `_updateText`, `_deleteText`, `_selectText` — the statements.
-/
import EntityTables.Gateway.Statements
import EntityTables.Proofs.Sql.Parsing

namespace EntityTables

set_option autoImplicit false

open Sql

/-! ## Keywords that do not stand there -/

namespace Sql

/-- The next token is none of some keywords. -/
def NoWord (keywords : List String) (ts : List Token) : Prop :=
  ∀ keyword ∈ keywords, ∀ text, .word text ∈ ts.head? → sameName keyword text = false

theorem NoWord.nil (keywords : List String) : NoWord keywords [] := by simp [NoWord]

theorem NoWord.word {keywords : List String} {text : String}
    (apart : ∀ keyword ∈ keywords, sameName keyword text = false) (ts : List Token) :
    NoWord keywords (.word text :: ts) := by
  intro keyword member other first
  cases first
  exact apart keyword member

theorem NoWord.of_subset {fewer keywords : List String} {ts : List Token}
    (none : NoWord keywords ts) (subset : fewer ⊆ keywords) : NoWord fewer ts :=
  fun keyword member => none keyword (subset member)

theorem NoWord.acceptsWord {keywords : List String} {ts : List Token} (none : NoWord keywords ts)
    {keyword : String} (member : keyword ∈ keywords) :
    Reading.acceptsWord keyword ts = some (false, ts) := by
  cases ts with
  | nil => rfl
  | cons t rest =>
    cases t with
    | word text => rw [Reading.acceptsWord_run, none keyword member text rfl]; rfl
    | _ => rfl

/-- A condition is read from some tokens wherever nothing goes on with it. -/
def TakesCondition (ts : List Token) (condition : Condition ColumnName Operand) : Prop :=
  ∀ rest, NoWord ["AND", "OR"] rest → Reading.condition (ts ++ rest) = some (condition, rest)

/-- A column as SQL text names it. -/
def columnNameOf (name : String) : ColumnName := ⟨name, !isBare name⟩

theorem acceptsSign_nameToken (s : Sign) (name : String) (ts : List Token) :
    Reading.acceptsSign s (nameToken name :: ts) = some (false, nameToken name :: ts) := by
  unfold nameToken
  split <;> rfl

theorem acceptsWord_same (keyword : String) (ts : List Token) :
    Reading.acceptsWord keyword (.word keyword :: ts) = some (true, ts) := by
  rw [Reading.acceptsWord_run, Reading.sameName_self]
  rfl

/-- A column that equals a placeholder. -/
theorem takesCondition_equal (column : String) :
    TakesCondition [nameToken column, .sign .equal, .placeholder]
      (.compare (columnNameOf column) .equal .placeholder) := by
  intro rest ends
  have name := Reading.Takes.columnName column (.sign .equal :: .placeholder :: rest)
  have operand := Reading.Takes.placeholder rest
  have noAnd := ends.acceptsWord (show "AND" ∈ _ by simp)
  have noOr := ends.acceptsWord (show "OR" ∈ _ by simp)
  simp only [List.cons_append, List.nil_append] at name operand ⊢
  have single (steps : Nat) : Reading.singleCondition (steps + 1)
      (nameToken column :: .sign .equal :: .placeholder :: rest) =
        some (.compare (columnNameOf column) .equal .placeholder, rest) := by
    simp [Reading.singleCondition, Reading.bind_run, acceptsSign_nameToken, name,
      Reading.columnCondition, Reading.next, Reading.comparison?, Reading.map_run, operand,
      columnNameOf]
  -- three steps are used: a disjunction of conjunctions of single conditions
  obtain ⟨steps, enough⟩ : ∃ steps, 3 * ((nameToken column :: .sign .equal ::
      .placeholder :: rest).length + 1) = steps + 3 := ⟨_, Nat.mul_succ 3 _⟩
  show Reading.disjunction (3 * (_ + 1)) _ = _
  rw [enough]
  simp [Reading.disjunction, Reading.conjunction, Reading.bind_run, single, noAnd, noOr,
    Reading.pure_run]

end Sql

/-! ## Predicates and orders -/

/-- The tokens of a predicate at the end of a statement, and the condition that they are. -/
inductive Predicate.Means :
    Predicate → List Token → Option (Condition ColumnName Operand) → Prop where
  | all : Means .all [] none
  | clause {text : String} {args : List Value} {ts : List Token}
      {condition : Condition ColumnName Operand} (written : Writes text ts)
      (read : TakesCondition ts condition) :
      Means (.clause text args) (.word "WHERE" :: ts) (some condition)

/-- A column that equals a placeholder, as a clause or between others. -/
theorem Sql.Writes.equality {column : String} (free : '\x00' ∉ column.toList) :
    Writes (quoteName column ++ " = ?") [nameToken column, .sign .equal, .placeholder] := by
  have text : quoteName column ++ " = ?" = quoteName column ++ " = " ++ "?" :=
    String.toList_inj.mp (by simp)
  rw [text]
  exact (Writes.name free).equal .placeholder

theorem Predicate.means_columnEquals {column : String} (free : '\x00' ∉ column.toList)
    (value : Value) :
    (Predicate.columnEquals column value).Means
      [.word "WHERE", nameToken column, .sign .equal, .placeholder]
      (some (.compare (columnNameOf column) .equal .placeholder)) :=
  .clause (.equality free) (takesCondition_equal column)

namespace Sql

variable {predicate : Predicate} {ts : List Token}
  {condition? : Option (Condition ColumnName Operand)}

/-- A predicate behind a text that it ends. -/
theorem Writes.where {text : String} {us : List Token} (written : Writes text us)
    (means : predicate.Means ts condition?) :
    Writes (text ++ predicate.whereText) (us ++ ts) := by
  cases means with
  | all => simpa [Predicate.whereText] using written
  | @clause clause args ts condition behind read =>
    have keyword := Writes.word "WHERE" (by decide)
    have whole := written.blank (keyword.blank behind)
    have same : text ++ (Predicate.clause clause args).whereText =
        text ++ " " ++ ("WHERE" ++ " " ++ clause) :=
      String.toList_inj.mp (by simp [Predicate.whereText])
    rw [same]
    simpa using whole

theorem whereClause_run (means : predicate.Means ts condition?) {rest : List Token}
    (ends : NoWord ["WHERE", "AND", "OR"] rest) :
    Reading.whereClause (ts ++ rest) = some (condition?, rest) := by
  cases means with
  | all =>
    have noWhere := ends.acceptsWord (show "WHERE" ∈ _ by simp)
    simp [Reading.whereClause, Reading.bind_run, noWhere, Reading.pure_run]
  | clause written read =>
    have within := read rest (ends.of_subset (by simp))
    simp [Reading.whereClause, Reading.bind_run, acceptsWord_same, Reading.map_run, within]

/-- The tokens of an order by one column at the end of a statement, if there is one. -/
def orderTokens : Option String → List Token
  | none => []
  | some column => [.word "ORDER", .word "BY", nameToken column]

/-- The order by one column, if there is one. -/
def orderKeys (order? : Option String) : List (SortKey ColumnName) :=
  (order?.map fun column => (⟨columnNameOf column, false⟩ : SortKey ColumnName)).toList

theorem noWord_orderTokens (order? : Option String) :
    NoWord ["WHERE", "AND", "OR"] (orderTokens order?) := by
  cases order? with
  | none => exact .nil _
  | some column => exact .word (by decide) _

theorem orderClause_run (order? : Option String) :
    Reading.orderClause (orderTokens order?) = some (orderKeys order?, []) := by
  cases order? with
  | none => rfl
  | some column =>
    have name := Reading.Takes.columnName column []
    simp only [List.cons_append, List.nil_append] at name
    have key : Reading.sortKey [nameToken column] = some (⟨columnNameOf column, false⟩, []) := by
      have noDesc : Reading.acceptsWord "DESC" [] = some (false, []) := rfl
      have noAsc : Reading.acceptsWord "ASC" [] = some (false, []) := rfl
      simp [Reading.sortKey, Reading.bind_run, name, noDesc, noAsc, columnNameOf, Reading.map_run]
    have list : Reading.list Reading.sortKey [nameToken column] =
        some ([⟨columnNameOf column, false⟩], []) := by
      have noComma : Reading.acceptsSign .comma [] = some (false, []) := rfl
      show Reading.commaList Reading.sortKey 1 _ = _
      simp [Reading.commaList, Reading.bind_run, key, noComma, Reading.pure_run]
    have order : Reading.word "BY" (.word "BY" :: [nameToken column]) =
        some ((), [nameToken column]) := Reading.Takes.word (Reading.sameName_self "BY") _
    simp [Reading.orderClause, orderTokens, orderKeys, Reading.bind_run, acceptsWord_same, order,
      list]

/-! ## Statements -/

theorem statement_insert (us : List Token) :
    Reading.statement (.word "INSERT" :: us) = Reading.insert us := by
  have create : sameName "CREATE" "INSERT" = false := by decide
  have drop : sameName "DROP" "INSERT" = false := by decide
  simp [Reading.statement, Reading.bind_run, Reading.acceptsWord_run, create, drop,
    Reading.sameName_self]

theorem statement_update (us : List Token) :
    Reading.statement (.word "UPDATE" :: us) = Reading.update us := by
  have create : sameName "CREATE" "UPDATE" = false := by decide
  have drop : sameName "DROP" "UPDATE" = false := by decide
  have insert : sameName "INSERT" "UPDATE" = false := by decide
  simp [Reading.statement, Reading.bind_run, Reading.acceptsWord_run, create, drop, insert,
    Reading.sameName_self]

theorem statement_delete (us : List Token) :
    Reading.statement (.word "DELETE" :: us) = Reading.delete us := by
  have create : sameName "CREATE" "DELETE" = false := by decide
  have drop : sameName "DROP" "DELETE" = false := by decide
  have insert : sameName "INSERT" "DELETE" = false := by decide
  have update : sameName "UPDATE" "DELETE" = false := by decide
  simp [Reading.statement, Reading.bind_run, Reading.acceptsWord_run, create, drop, insert, update,
    Reading.sameName_self]

theorem statement_select (us : List Token) :
    Reading.statement (.word "SELECT" :: us) = Reading.select us := by
  have create : sameName "CREATE" "SELECT" = false := by decide
  have drop : sameName "DROP" "SELECT" = false := by decide
  have insert : sameName "INSERT" "SELECT" = false := by decide
  have update : sameName "UPDATE" "SELECT" = false := by decide
  have delete : sameName "DELETE" "SELECT" = false := by decide
  have word := Reading.Takes.word (Reading.sameName_self "SELECT") us
  simp only [List.cons_append, List.nil_append] at word
  simp [Reading.statement, Reading.bind_run, Reading.acceptsWord_run, create, drop, insert, update,
    delete, word]

/-- The tokens of names with commas between them. -/
def nameTokens (names : List String) : List Token :=
  [.sign .comma].intercalate (names.map fun name => [nameToken name])

theorem takes_names {names : List String} (some : names ≠ []) :
    Reading.TakesList (Reading.list Reading.name) (nameTokens names) names := by
  have each : ∀ name ∈ names, Reading.Takes Reading.name [nameToken name] (id name) :=
    fun name _ => Reading.Takes.name name
  simpa [nameTokens] using Reading.TakesList.list each (by simp) some

theorem readStatement_default (table : String) :
    readStatement [.word "INSERT", .word "INTO", nameToken table, .word "DEFAULT",
      .word "VALUES"] = some (.insert table []) := by
  have into := Reading.Takes.word (Reading.sameName_self "INTO")
    [nameToken table, .word "DEFAULT", .word "VALUES"]
  have name := Reading.Takes.name table [.word "DEFAULT", .word "VALUES"]
  have values := Reading.Takes.word (Reading.sameName_self "VALUES") []
  simp only [List.cons_append, List.nil_append] at into name values
  rw [readStatement, Reading.whole, statement_insert]
  simp [Reading.insert, Reading.bind_run, into, name, acceptsWord_same, Reading.map_run, values]

theorem readStatement_insert {table : String} {names : List String} (some : names ≠ []) :
    readStatement (.word "INSERT" :: .word "INTO" :: nameToken table ::
      ((.sign .leftParen :: nameTokens names ++ [.sign .rightParen]) ++
        (.word "VALUES" :: (.sign .leftParen ::
          [.sign .comma].intercalate (names.map fun _ => [.placeholder]) ++
            [.sign .rightParen])))) =
      .some (.insert table (names.map fun name => (name, .placeholder))) := by
  have into (ts : List Token) := Reading.Takes.word (Reading.sameName_self "INTO") ts
  have name (ts : List Token) := Reading.Takes.name table ts
  have columns (ts : List Token) := (takes_names some).parenthesized ts
  have values (ts : List Token) := Reading.Takes.word (Reading.sameName_self "VALUES") ts
  have each : ∀ name ∈ names, Reading.Takes Reading.operand [.placeholder] .placeholder :=
    fun _ _ => Reading.Takes.placeholder
  have operands := (Reading.TakesList.list each (by simp) some).parenthesized []
  have notDefault (ts : List Token) : Reading.acceptsWord "DEFAULT" (.sign .leftParen :: ts) =
      Option.some (false, .sign .leftParen :: ts) := rfl
  have zipped : names.zip (names.map fun _ => Operand.placeholder) =
      names.map fun name => (name, .placeholder) := by
    rw [← List.zip_map', List.map_id']
  simp only [List.cons_append, List.nil_append, List.append_assoc] at into name columns values
  simp only [List.cons_append, List.append_nil] at operands
  rw [readStatement, Reading.whole, statement_insert]
  simp [Reading.insert, Reading.bind_run, into, name, notDefault, columns, values, operands, zipped,
    Reading.pure_run, -List.map_const']

/-- The tokens of columns that are set to placeholders. -/
def assignmentTokens (names : List String) : List Token :=
  [.sign .comma].intercalate (names.map fun name => [nameToken name, .sign .equal, .placeholder])

variable {rest : List Token}

theorem takes_assignments {names : List String} (some : names ≠ []) :
    Reading.TakesList (Reading.list Reading.assignment) (assignmentTokens names)
      (names.map fun name => (name, .placeholder)) := by
  have each : ∀ name ∈ names, Reading.Takes Reading.assignment
      [nameToken name, .sign .equal, .placeholder] (name, .placeholder) := fun name _ =>
    (Reading.Takes.name name).bind
      ((Reading.Takes.sign .equal).bind Reading.Takes.placeholder.finish)
  exact Reading.TakesList.list each (by simp) some

/-- The tokens of a change up to its condition. -/
def updateTokens (table : String) (names : List String) : List Token :=
  .word "UPDATE" :: nameToken table :: .word "SET" :: assignmentTokens names

/-- The tokens of a removal up to its condition. -/
def deleteTokens (table : String) : List Token := [.word "DELETE", .word "FROM", nameToken table]

/-- The tokens of a search up to its condition. -/
def selectTokens (table : String) (names : List String) : List Token :=
  .word "SELECT" :: (if names = [] then [.sign .star] else nameTokens names) ++
    [.word "FROM", nameToken table]

/-- A change goes on with its condition, if it has one, and ends. -/
theorem readStatement_update (table : String) {names : List String} (some : names ≠ [])
    (ends : Reading.NoComma rest) :
    readStatement (updateTokens table names ++ rest) = (Reading.whereClause.whole rest).map
      (.update table (names.map fun name => (name, .placeholder))) := by
  have name (ts : List Token) := Reading.Takes.name table ts
  have set (ts : List Token) := Reading.Takes.word (Reading.sameName_self "SET") ts
  have assignments := takes_assignments some rest ends
  simp only [List.cons_append, List.nil_append] at name set
  have front : Reading.statement (updateTokens table names ++ rest) =
      (Statement.update table (names.map fun name => (name, .placeholder)) <$>
        Reading.whereClause) rest := by
    rw [updateTokens, List.cons_append, statement_update]
    simp [Reading.update, Reading.bind_run, name, set, assignments]
  rw [← Reading.whole_map, readStatement, Reading.whole, front, Reading.whole]

/-- A removal goes on with its condition, if it has one, and ends. -/
theorem readStatement_delete (table : String) (rest : List Token) :
    readStatement (deleteTokens table ++ rest) =
      (Reading.whereClause.whole rest).map (.delete table) := by
  have keyword (ts : List Token) := Reading.Takes.word (Reading.sameName_self "FROM") ts
  have name (ts : List Token) := Reading.Takes.name table ts
  simp only [List.cons_append, List.nil_append] at keyword name
  have front : Reading.statement (deleteTokens table ++ rest) =
      (Statement.delete table <$> Reading.whereClause) rest := by
    rw [deleteTokens, List.cons_append, statement_delete]
    simp [Reading.delete, Reading.bind_run, keyword, name]
  rw [← Reading.whole_map, readStatement, Reading.whole, front, Reading.whole]

/-- The end of a search: its condition, if it has one, and its order. -/
def Reading.searchEnd :
    Reading (Option (Condition ColumnName Operand) × List (SortKey ColumnName)) := do
  let condition? ← whereClause
  Prod.mk condition? <$> orderClause

/-- A search goes on with its condition and its order, if it has them, and ends. -/
theorem readStatement_select (table : String) (names : List String) (rest : List Token) :
    readStatement (selectTokens table names ++ rest) = (Reading.searchEnd.whole rest).map
      fun found => .select (names.map columnNameOf) table found.1 found.2 := by
  have keyword (ts : List Token) := Reading.Takes.word (Reading.sameName_self "FROM") ts
  have name (ts : List Token) := Reading.Takes.name table ts
  simp only [List.cons_append, List.nil_append] at keyword name
  have front : Reading.statement (selectTokens table names ++ rest) =
      ((fun found => Statement.select (names.map columnNameOf) table found.1 found.2) <$>
        Reading.searchEnd) rest := by
    rw [selectTokens, List.cons_append, List.cons_append, statement_select]
    by_cases none : names = []
    · have star (ts : List Token) : Reading.acceptsSign .star (.sign .star :: ts) =
          some (true, ts) := rfl
      simp [Reading.select, Reading.searchEnd, Reading.bind_run, Reading.map_run, none, star,
        keyword, name, Option.map_bind, Function.comp_def]
    · have each : ∀ name ∈ names, Reading.Takes Reading.columnName [nameToken name]
          (columnNameOf name) := fun name _ => Reading.Takes.columnName name
      have columns (ts : List Token) : Reading.list Reading.columnName
          (nameTokens names ++ .word "FROM" :: ts) =
            some (names.map columnNameOf, .word "FROM" :: ts) :=
        Reading.TakesList.list each (by simp) none (.word "FROM" :: ts) (.cons (by simp))
      have star (ts : List Token) : Reading.acceptsSign .star (nameTokens names ++ ts) =
          some (false, nameTokens names ++ ts) := by
        cases names with
        | nil => exact absurd rfl none
        | cons first others => cases others <;> simp [nameTokens, acceptsSign_nameToken]
      simp [Reading.select, Reading.searchEnd, Reading.bind_run, Reading.map_run, none, star,
        columns, keyword, name, Option.map_bind, Function.comp_def]
  rw [← Reading.whole_map, readStatement, Reading.whole, front, Reading.whole]

theorem Predicate.Means.noComma (means : predicate.Means ts condition?) : Reading.NoComma ts := by
  cases means with
  | all => exact .nil
  | clause written read => exact .cons (by simp)

/-- A predicate at the end of a text is its condition. -/
theorem Predicate.Means.whole (means : predicate.Means ts condition?) :
    Reading.whereClause.whole ts = some condition? := by
  have condition := whereClause_run means (.nil _)
  rw [List.append_nil] at condition
  simp [Reading.whole, condition]

/-- A predicate and an order at the end of a text are its condition and its order. -/
theorem Predicate.Means.whole_searchEnd (means : predicate.Means ts condition?)
    (order? : Option String) :
    Reading.searchEnd.whole (ts ++ orderTokens order?) = some (condition?, orderKeys order?) := by
  have condition := whereClause_run means (noWord_orderTokens order?)
  rw [Reading.searchEnd, Reading.whole_bind condition, Reading.whole_map]
  simp [Reading.whole, orderClause_run]

/-! ## Texts -/

theorem writes_nameList {names : List String} (some : names ≠ [])
    (free : ∀ name ∈ names, '\x00' ∉ name.toList) :
    Writes (nameList names) (nameTokens names) :=
  .commas (fun name member => .name (free name member)) some

variable {table : String} {names : List String}

/-- The tokens of an addition. -/
def insertTokens (table : String) (names : List String) : List Token :=
  .word "INSERT" :: .word "INTO" :: nameToken table ::
    if names = [] then [.word "DEFAULT", .word "VALUES"]
    else
      (.sign .leftParen :: nameTokens names ++ [.sign .rightParen]) ++
        (.word "VALUES" :: (.sign .leftParen ::
          [.sign .comma].intercalate (names.map fun _ => [.placeholder]) ++ [.sign .rightParen]))

theorem writes_insertText (named : '\x00' ∉ table.toList)
    (free : ∀ name ∈ names, '\x00' ∉ name.toList) :
    Writes (insertText table names) (insertTokens table names) := by
  have front := ((Writes.word "INSERT" (by decide)).blank (.word "INTO" (by decide))).blank
    (.name named)
  have insertInto : "INSERT INTO " = "INSERT" ++ " " ++ "INTO" ++ " " := by decide
  by_cases none : names = []
  · -- the text of an addition without columns is another one
    have written := (front.blank (.word "DEFAULT" (by decide))).blank (.word "VALUES" (by decide))
    have text : insertText table names =
        "INSERT" ++ " " ++ "INTO" ++ " " ++ quoteName table ++ " " ++ "DEFAULT" ++ " " ++
          "VALUES" := by
      have defaultValues : " DEFAULT VALUES" = " " ++ "DEFAULT" ++ " " ++ "VALUES" := by decide
      rw [insertText, if_pos (by simp [none]), insertInto, defaultValues]
      ac_rfl
    rw [text, insertTokens, if_pos none]
    exact written
  · have operands : Writes (", ".intercalate (names.map fun _ => "?"))
        ([.sign .comma].intercalate (names.map fun _ => [.placeholder])) :=
      .commas (fun _ _ => .placeholder) none
    have written := ((front.blank (writes_nameList none free).parens).blank
      (.word "VALUES" (by decide))).blank operands.parens
    have text : insertText table names =
        "INSERT" ++ " " ++ "INTO" ++ " " ++ quoteName table ++ " " ++
          ("(" ++ nameList names ++ ")") ++ " " ++ "VALUES" ++ " " ++
            ("(" ++ ", ".intercalate (names.map fun _ => "?") ++ ")") := by
      have opening : " (" = " " ++ "(" := by decide
      have values : ") VALUES (" = ")" ++ " " ++ "VALUES" ++ " " ++ "(" := by decide
      rw [insertText, if_neg (by simpa using none), insertInto, opening, values]
      ac_rfl
    rw [text, insertTokens, if_neg none]
    simpa using written

theorem readStatement_insertTokens (table : String) (names : List String) :
    readStatement (insertTokens table names) =
      some (.insert table (names.map fun name => (name, .placeholder))) := by
  unfold insertTokens
  by_cases none : names = []
  · rw [if_pos none, none]
    exact readStatement_default table
  · rw [if_neg none]
    exact readStatement_insert none

theorem script_insertText (named : '\x00' ∉ table.toList)
    (free : ∀ name ∈ names, '\x00' ∉ name.toList) :
    script (insertText table names) =
      [some (.insert table (names.map fun name => (name, .placeholder)))] :=
  (writes_insertText named free).script_single (readStatement_insertTokens table names)

/-- A change as text, up to its condition. -/
def updateFront (table : String) (names : List String) : String :=
  "UPDATE " ++ quoteName table ++ " SET " ++
    ", ".intercalate (names.map fun name => quoteName name ++ " = ?")

theorem writes_updateFront (named : '\x00' ∉ table.toList) (some : names ≠ [])
    (free : ∀ name ∈ names, '\x00' ∉ name.toList) :
    Writes (updateFront table names) (updateTokens table names) := by
  have assignments : Writes (", ".intercalate (names.map fun name => quoteName name ++ " = ?"))
      (assignmentTokens names) :=
    .commas (fun name member => .equality (free name member)) some
  have written := (((Writes.word "UPDATE" (by decide)).blank (.name named)).blank
    (.word "SET" (by decide))).blank assignments
  have text : updateFront table names = "UPDATE" ++ " " ++ quoteName table ++ " " ++ "SET" ++ " " ++
      ", ".intercalate (names.map fun name => quoteName name ++ " = ?") := by
    have update : "UPDATE " = "UPDATE" ++ " " := by decide
    have set : " SET " = " " ++ "SET" ++ " " := by decide
    rw [updateFront, update, set]
    ac_rfl
  rw [text]
  exact written

theorem script_updateText (named : '\x00' ∉ table.toList) (some : names ≠ [])
    (free : ∀ name ∈ names, '\x00' ∉ name.toList) (means : predicate.Means ts condition?) :
    script (updateText table names predicate) =
      [.some (.update table (names.map fun name => (name, .placeholder)) condition?)] := by
  refine ((writes_updateFront named some free).where means).script_single ?_
  rw [readStatement_update table some (Predicate.Means.noComma means),
    Predicate.Means.whole means, Option.map_some]

/-- A removal as text, up to its condition. -/
def deleteFront (table : String) : String := "DELETE FROM " ++ quoteName table

theorem writes_deleteFront (named : '\x00' ∉ table.toList) :
    Writes (deleteFront table) (deleteTokens table) := by
  have deleteFrom : "DELETE FROM " = "DELETE" ++ " " ++ "FROM" ++ " " := by decide
  rw [deleteFront, deleteFrom]
  exact ((Writes.word "DELETE" (by decide)).blank (.word "FROM" (by decide))).blank (.name named)

theorem script_deleteText (named : '\x00' ∉ table.toList)
    (means : predicate.Means ts condition?) :
    script (deleteText table predicate) = [some (.delete table condition?)] := by
  refine ((writes_deleteFront named).where means).script_single ?_
  rw [readStatement_delete, Predicate.Means.whole means, Option.map_some]

/-- A search as text, up to its condition. -/
def selectFront (table : String) (names : List String) : String :=
  "SELECT " ++ (if names.isEmpty then "*" else nameList names) ++ " FROM " ++ quoteName table

/-- The order at the end of a search as text, if there is one. -/
def orderText : Option String → String
  | none => ""
  | some order => " ORDER BY " ++ order

theorem append_orderText_none (text : String) : text ++ orderText none = text :=
  String.append_empty

theorem selectText_eq (table : String) (names : List String) (predicate : Predicate)
    (order? : Option String) :
    selectText table names predicate order? =
      selectFront table names ++ predicate.whereText ++ orderText order? := by
  cases order? <;> rfl

theorem writes_selectFront (named : '\x00' ∉ table.toList)
    (free : ∀ name ∈ names, '\x00' ∉ name.toList) :
    Writes (selectFront table names) (selectTokens table names) := by
  have select : "SELECT " = "SELECT" ++ " " := by decide
  have keyword : " FROM " = " " ++ "FROM" ++ " " := by decide
  have projection : Writes (if names.isEmpty then "*" else nameList names)
      (if names = [] then [.sign .star] else nameTokens names) := by
    by_cases none : names = []
    · rw [if_pos (by simp [none]), if_pos none]
      exact .star
    · rw [if_neg (by simpa using none), if_neg none]
      exact writes_nameList none free
  have written := (((Writes.word "SELECT" (by decide)).blank projection).blank
    (.word "FROM" (by decide))).blank (.name named)
  have text : selectFront table names = "SELECT" ++ " " ++
      (if names.isEmpty then "*" else nameList names) ++ " " ++ "FROM" ++ " " ++
        quoteName table := by
    rw [selectFront, select, keyword]
    ac_rfl
  rw [text]
  simpa [selectTokens] using written

theorem script_selectText (named : '\x00' ∉ table.toList)
    (free : ∀ name ∈ names, '\x00' ∉ name.toList) (means : predicate.Means ts condition?)
    {order? : Option String} (ordered : ∀ column ∈ order?, '\x00' ∉ column.toList) :
    script (selectText table names predicate (order?.map quoteName)) =
      [some (.select (names.map columnNameOf) table condition? (orderKeys order?))] := by
  have found := (writes_selectFront named free).where means
  have read : readStatement (selectTokens table names ++ (ts ++ orderTokens order?)) =
      some (.select (names.map columnNameOf) table condition? (orderKeys order?)) := by
    rw [readStatement_select, Predicate.Means.whole_searchEnd means, Option.map_some]
  rw [selectText_eq]
  cases order? with
  | none =>
    rw [orderTokens, List.append_nil] at read
    rw [Option.map_none, append_orderText_none]
    exact found.script_single read
  | some column =>
    have whole := (found.blank ((Writes.word "ORDER" (by decide)).blank
      (.word "BY" (by decide)))).blank (.name (ordered column rfl))
    have ending : selectFront table names ++ predicate.whereText ++ (" ORDER BY " ++
        quoteName column) = selectFront table names ++ predicate.whereText ++ " " ++
          ("ORDER" ++ " " ++ "BY") ++ " " ++ quoteName column := by
      have orderBy : " ORDER BY " = " " ++ ("ORDER" ++ " " ++ "BY") ++ " " := by decide
      rw [orderBy]
      ac_rfl
    rw [Option.map_some, orderText, ending]
    refine whole.script_single ?_
    simpa [orderTokens] using read

end Sql

end EntityTables
