/-
# EntityTables.Sql.StatementReader — SQL text as statements

Semicolons separate the statements of a text, and each of them is read from its tokens alone. In
conditions AND binds tighter than OR.

* `readStatement` — one statement; `script` — the statements of a text, in order; a text that is no
  statement is none.
-/
import EntityTables.Sql.Statement
import EntityTables.Sql.Token

namespace EntityTables.Sql

set_option autoImplicit false

/-- Reads something from the front of some tokens, if it stands there. -/
abbrev Reading (α : Type) := StateT (List Token) Option α

namespace Reading

variable {α : Type}

/-- The next token. -/
def next : Reading Token := fun
  | [] => none
  | token :: rest => some (token, rest)

/-- Whether a certain token comes next; if so, it is read. -/
def accepts (fits : Token → Bool) : Reading Bool := fun
  | [] => some (false, [])
  | token :: rest => if fits token then some (true, rest) else some (false, token :: rest)

/-- Whether a keyword comes next, in any case. -/
def acceptsWord (keyword : String) : Reading Bool :=
  accepts fun
    | .word text => sameName keyword text
    | _ => false

/-- Whether a sign comes next. -/
def acceptsSign (sign : Sign) : Reading Bool := accepts (· == .sign sign)

/-- A keyword that has to stand here. -/
def word (keyword : String) : Reading Unit := do
  if ← acceptsWord keyword then return () else failure

/-- Keywords that have to stand here, one after the other. -/
def words (keywords : List String) : Reading Unit := keywords.forM word

/-- A sign that has to stand here. -/
def sign (sign : Sign) : Reading Unit := do
  if ← acceptsSign sign then return () else failure

/-- Something that ends the tokens. -/
def whole (reading : Reading α) (tokens : List Token) : Option α :=
  match reading tokens with
  | some (a, []) => some a
  | _ => none

/-- One or more items with commas between them. -/
def commaList (item : Reading α) : Nat → Reading (List α)
  | 0 => failure
  | steps + 1 => do
    let first ← item
    if ← acceptsSign .comma then return first :: (← commaList item steps) else return [first]

/-- One or more items with commas between them, as many as there are. -/
def list (item : Reading α) : Reading (List α) := do commaList item (← get).length

/-- Items between parentheses. -/
def parenthesized (reading : Reading α) : Reading α := do
  sign .leftParen
  let a ← reading
  sign .rightParen
  return a

/-- A name and its spelling. -/
def spelledName : Reading (String × String) := do
  let token ← next
  match token with
  | .word text => if canBeName text then return (text, token.spelling) else failure
  | .quoted name => return (name, token.spelling)
  | _ => failure

/-- A name. -/
def name : Reading String := do return (← spelledName).1

/-- A column, between quotes or not. -/
def columnName : Reading ColumnName := do
  match ← next with
  | .word text => if canBeName text then return ⟨text, false⟩ else failure
  | .quoted name => return ⟨name, true⟩
  | _ => failure

/-- The bytes that a cast declares to be text, the keyword already read. -/
def castOperand : Reading Operand :=
  parenthesized do
    match ← next with
    | .blob bytes =>
      words ["AS", "TEXT"]
      return .literal (.ofTextBytes bytes)
    | _ => failure

/-- A placeholder, an integer, nothing, bytes, or bytes as text. -/
def operand : Reading Operand := do
  match ← next with
  | .placeholder => return .placeholder
  | .integer n =>
    if IntType.int64.Holds n then return .literal (.value (.integer (.ofNat n))) else failure
  | .blob bytes => return .literal (.value (.blob bytes))
  | .word text =>
    if sameName "NULL" text then return .literal .null
    else if sameName "CAST" text then castOperand
    else failure
  | _ => failure

/-- The comparison that a sign stands for. -/
def comparison? : Sign → Option Comparison
  | .equal => some .equal
  | .different => some .different
  | .less => some .less
  | .lessEqual => some .lessEqual
  | .greater => some .greater
  | .greaterEqual => some .greaterEqual
  | _ => none

/-- What stands behind a column in a condition. -/
def columnCondition (column : ColumnName) : Reading (Condition ColumnName Operand) := do
  match ← next with
  | .sign s =>
    match comparison? s with
    | some comparison => return .compare column comparison (← operand)
    | none => failure
  | .word text =>
    if sameName "IS" text then
      if ← acceptsWord "NOT" then
        word "NULL"
        return .isNotNull column
      else
        word "NULL"
        return .isNull column
    else failure
  | _ => failure

mutual

/-- Conditions joined by OR. -/
def disjunction : Nat → Reading (Condition ColumnName Operand)
  | 0 => failure
  | steps + 1 => do
    let left ← conjunction steps
    if ← acceptsWord "OR" then return .or left (← disjunction steps) else return left

/-- Conditions joined by AND. -/
def conjunction : Nat → Reading (Condition ColumnName Operand)
  | 0 => failure
  | steps + 1 => do
    let left ← singleCondition steps
    if ← acceptsWord "AND" then return .and left (← conjunction steps) else return left

/-- A condition between parentheses, or one about a column. -/
def singleCondition : Nat → Reading (Condition ColumnName Operand)
  | 0 => failure
  | steps + 1 => do
    if ← acceptsSign .leftParen then
      let inner ← disjunction steps
      sign .rightParen
      return inner
    else columnCondition (← columnName)

end

/-- A condition; each token is read at no more than three levels. -/
def condition : Reading (Condition ColumnName Operand) := do
  disjunction (3 * ((← get).length + 1))

/-- The condition at the end of a statement, if there is one. -/
def whereClause : Reading (Option (Condition ColumnName Operand)) := do
  if ← acceptsWord "WHERE" then return some (← condition) else return none

/-- A column by which rows are put in order. -/
def sortKey : Reading (SortKey ColumnName) := do
  let column ← columnName
  if ← acceptsWord "DESC" then return ⟨column, true⟩
  let _ ← acceptsWord "ASC"
  return ⟨column, false⟩

/-- The order at the end of a statement, if there is one. -/
def orderClause : Reading (List (SortKey ColumnName)) := do
  if ← acceptsWord "ORDER" then
    word "BY"
    list sortKey
  else return []

/-- The storage class that the name of a type stands for. -/
def storageNamed? (typeName : String) : Option Storage :=
  if sameName "INTEGER" typeName then some .integer
  else if sameName "REAL" typeName then some .real
  else if sameName "TEXT" typeName then some .text
  else if sameName "BLOB" typeName then some .blob
  else none

/-- The storage class that a column is declared with. -/
def storage : Reading Storage := do
  match ← next with
  | .word text =>
    match storageNamed? text with
    | some s => return s
    | none => failure
  | _ => failure

/-- A column of a new table. -/
def columnDefinition : Reading (String × Storage) := do return (← name, ← storage)

/-- The identity of a new table and its columns. -/
def tableBody : Reading (String × List (String × Storage)) := do
  let identity ← name
  words ["INTEGER", "PRIMARY", "KEY", "AUTOINCREMENT"]
  if ← acceptsSign .comma then return (identity, ← list columnDefinition)
  else return (identity, [])

/-- A new table, behind its keyword. -/
def createTable : Reading (Statement Operand) := do
  word "TABLE"
  let (name, spelling) ← spelledName
  let (identity, columns) ← parenthesized tableBody
  return .createTable spelling ⟨name, identity, columns⟩

/-- The removal of a table, behind its keyword. -/
def dropTable : Reading (Statement Operand) := do
  words ["TABLE", "IF", "EXISTS"]
  return .dropTable (← name)

/-- A new row, behind its keyword; there are as many values as columns. -/
def insert : Reading (Statement Operand) := do
  word "INTO"
  let table ← name
  if ← acceptsWord "DEFAULT" then
    word "VALUES"
    return .insert table []
  else
    let columns ← parenthesized (list name)
    word "VALUES"
    let operands ← parenthesized (list operand)
    if columns.length = operands.length then return .insert table (columns.zip operands)
    else failure

/-- A column and what it is set to. -/
def assignment : Reading (String × Operand) := do
  let column ← name
  sign .equal
  return (column, ← operand)

/-- A change of rows, behind its keyword. -/
def update : Reading (Statement Operand) := do
  let table ← name
  word "SET"
  let assignments ← list assignment
  return .update table assignments (← whereClause)

/-- A removal of rows, behind its keyword. -/
def delete : Reading (Statement Operand) := do
  word "FROM"
  let table ← name
  return .delete table (← whereClause)

/-- A search for rows, behind its keyword. -/
def select : Reading (Statement Operand) := do
  let columns ← if ← acceptsSign .star then pure [] else list columnName
  word "FROM"
  let table ← name
  let condition? ← whereClause
  return .select columns table condition? (← orderClause)

/-- A statement. -/
def statement : Reading (Statement Operand) := do
  if ← acceptsWord "CREATE" then createTable
  else if ← acceptsWord "DROP" then dropTable
  else if ← acceptsWord "INSERT" then insert
  else if ← acceptsWord "UPDATE" then update
  else if ← acceptsWord "DELETE" then delete
  else
    word "SELECT"
    select

end Reading

/-- The statement that some tokens are. -/
def readStatement (tokens : List Token) : Option (Statement Operand) :=
  Reading.statement.whole tokens

/-- The tokens before, between and behind semicolons. -/
def splitAtSemicolons : List Token → List (List Token)
  | [] => [[]]
  | token :: rest =>
    if token = .sign .semicolon then [] :: splitAtSemicolons rest
    else
      match splitAtSemicolons rest with
      | [] => [[token]]
      | group :: groups => (token :: group) :: groups

/-- The statements of a text; none where the text is no statement. -/
def script (text : String) : List (Option (Statement Operand)) :=
  ((splitAtSemicolons (tokens text)).filter fun group => !group.isEmpty).map readStatement

/-- The first statement of a text. What follows a first statement is not looked at. -/
def firstStatement? (text : String) : Option (Statement Operand) :=
  match script text with
  | [] => none
  | first :: _ => first

end EntityTables.Sql
