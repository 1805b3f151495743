/-
# EntityTables.Proofs.Sql.Parsing — statements read back from their tokens

Each part of a statement takes exactly its own tokens: `Takes reading ts a` says that a reading makes
`a` of the tokens `ts` and leaves whatever follows them.

* `TakesList.list` — items with commas between them are read one by one.
* `readStatement_definition` — the tokens of a table definition are that definition.
* `Writes.script_single`, `Writes.script_closed` — a text of one statement.
-/
import EntityTables.Proofs.Sql.Lexing

namespace EntityTables.Sql

set_option autoImplicit false

/-- No name of a table and of its columns has the character at which SQL text ends. -/
def TableDefinition.NulFree (definition : TableDefinition) : Prop :=
  ∀ name ∈ definition.name :: definition.identity :: definition.columns.map Prod.fst,
    '\x00' ∉ name.toList

instance (definition : TableDefinition) : Decidable definition.NulFree :=
  inferInstanceAs (Decidable (∀ name ∈ _, _))

namespace Reading

variable {α β : Type}

/-- A reading makes a value of some tokens and leaves what follows them. -/
def Takes (reading : Reading α) (ts : List Token) (a : α) : Prop :=
  ∀ rest, reading (ts ++ rest) = some (a, rest)

theorem bind_run (reading : Reading α) (next : α → Reading β) (ts : List Token) :
    (reading >>= next) ts = (reading ts).bind fun read => next read.1 read.2 := rfl

theorem map_run (f : α → β) (reading : Reading α) (ts : List Token) :
    (f <$> reading) ts = (reading ts).map fun read => (f read.1, read.2) := by
  cases found : reading ts with
  | none => simp [Functor.map, StateT.map, found]
  | some read => simp [Functor.map, StateT.map, found]

theorem pure_run (a : α) (ts : List Token) : (pure a : Reading α) ts = some (a, ts) := rfl

theorem Takes.pure (a : α) : Takes (Pure.pure a) [] a := fun _ => rfl

theorem Takes.bind {reading : Reading α} {next : α → Reading β} {ts us : List Token} {a : α}
    {b : β} (first : Takes reading ts a) (second : Takes (next a) us b) :
    Takes (reading >>= next) (ts ++ us) b := by
  intro rest
  rw [List.append_assoc, bind_run, first]
  exact second rest

/-- The last step of a reading only puts together what was read. -/
theorem Takes.finish {reading : Reading α} {ts : List Token} {a : α} {make : α → β}
    (first : Takes reading ts a) : Takes (do return make (← reading)) ts (make a) := by
  have both : Takes (reading >>= fun a => Pure.pure (make a)) (ts ++ []) (make a) :=
    first.bind (Takes.pure (make a))
  simpa using both

theorem Takes.whole {reading : Reading α} {ts : List Token} {a : α}
    (takes : Takes reading ts a) : whole reading ts = some a := by
  have := takes []
  simp only [List.append_nil] at this
  simp [Reading.whole, this]

/-- What is read to the end begins with what is read first. -/
theorem whole_bind {reading : Reading α} {next : α → Reading β} {ts rest : List Token} {a : α}
    (first : reading ts = some (a, rest)) : (reading >>= next).whole ts = (next a).whole rest := by
  simp [Reading.whole, bind_run, first]

/-- What is made of a reading to the end is made of what was read. -/
theorem whole_map (make : α → β) (reading : Reading α) (ts : List Token) :
    (make <$> reading).whole ts = (reading.whole ts).map make := by
  unfold Reading.whole
  rw [map_run]
  rcases reading ts with none | ⟨a, _ | ⟨t, rest⟩⟩ <;> rfl

/-! ## Words, signs and names -/

theorem acceptsWord_run (keyword text : String) (ts : List Token) :
    acceptsWord keyword (.word text :: ts) =
      some (sameName keyword text, if sameName keyword text then ts else .word text :: ts) := by
  unfold acceptsWord accepts
  cases same : sameName keyword text <;> simp [same]

theorem Takes.word {keyword text : String} (same : sameName keyword text = true) :
    Takes (word keyword) [.word text] () := by
  intro rest
  simp [Reading.word, bind_run, acceptsWord_run, same, pure_run]

theorem Takes.sign (s : Sign) : Takes (sign s) [.sign s] () := by
  intro rest
  simp [Reading.sign, bind_run, acceptsSign, accepts, pure_run]

theorem sameName_self (name : String) : sameName name name = true := by simp [sameName]

theorem Takes.words (keywords : List String) :
    Takes (words keywords) (keywords.map .word) () := by
  induction keywords with
  | nil => exact Takes.pure ()
  | cons keyword rest ih => exact (Takes.word (sameName_self keyword)).bind ih

theorem canBeName_of_isBare {name : String} (bare : isBare name = true) :
    canBeName name = true :=
  canBeName_of_not_readsAsKeyword (not_readsAsKeyword_of_isBare bare)

theorem spelling_nameToken (name : String) : (nameToken name).spelling = quoteName name := by
  unfold nameToken quoteName
  split <;> rfl

theorem Takes.spelledName (name : String) :
    Takes spelledName [nameToken name] (name, quoteName name) := by
  intro rest
  have spelling := spelling_nameToken name
  cases bare : isBare name with
  | true =>
    simp only [nameToken, bare, if_true] at spelling ⊢
    simp [Reading.spelledName, bind_run, next, canBeName_of_isBare bare, pure_run, spelling]
  | false =>
    simp only [nameToken, bare, Bool.false_eq_true, if_false] at spelling ⊢
    simp [Reading.spelledName, bind_run, next, pure_run, spelling]

theorem Takes.name (name : String) : Takes Reading.name [nameToken name] name :=
  (Takes.spelledName name).finish

theorem Takes.columnName (name : String) :
    Takes columnName [nameToken name] ⟨name, !isBare name⟩ := by
  intro rest
  cases bare : isBare name with
  | true =>
    simp [Reading.columnName, nameToken, bare, bind_run, next, canBeName_of_isBare bare, pure_run]
  | false => simp [Reading.columnName, nameToken, bare, bind_run, next, pure_run]

theorem Takes.placeholder : Takes operand [.placeholder] .placeholder := fun _ => rfl

/-! ## Lists -/

/-- No comma comes next. -/
def NoComma (ts : List Token) : Prop := ∀ t ∈ ts.head?, t ≠ .sign .comma

theorem NoComma.nil : NoComma [] := by simp [NoComma]

theorem NoComma.cons {t : Token} {ts : List Token} (apart : t ≠ .sign .comma) :
    NoComma (t :: ts) := by
  simpa [NoComma] using apart

/-- A reading makes a value of some tokens wherever no comma follows them. -/
def TakesList (reading : Reading α) (ts : List Token) (a : α) : Prop :=
  ∀ rest, NoComma rest → reading (ts ++ rest) = some (a, rest)

theorem acceptsSign_comma (ts : List Token) :
    acceptsSign .comma (.sign .comma :: ts) = some (true, ts) := by
  simp [acceptsSign, accepts]

theorem NoComma.acceptsSign_comma {ts : List Token} (ends : NoComma ts) :
    Reading.acceptsSign .comma ts = some (false, ts) := by
  cases ts with
  | nil => rfl
  | cons t ts =>
    have apart : t ≠ .sign .comma := ends t (by simp)
    simp [acceptsSign, accepts, apart]

theorem TakesList.parenthesized {reading : Reading α} {ts : List Token} {a : α}
    (inner : TakesList reading ts a) :
    Takes (parenthesized reading) (.sign .leftParen :: ts ++ [.sign .rightParen]) a := by
  intro rest
  have opened := Takes.sign .leftParen (ts ++ .sign .rightParen :: rest)
  have closed := Takes.sign .rightParen rest
  have within := inner (.sign .rightParen :: rest) (.cons (by decide))
  simp only [List.cons_append, List.nil_append] at opened closed
  simp [Reading.parenthesized, bind_run, opened, within, map_run, closed]

theorem commaList_run {item : Reading α} {tokens : β → List Token} {value : β → α}
    {items : List β} (each : ∀ b ∈ items, Takes item (tokens b) (value b)) (some : items ≠ [])
    {rest : List Token} (ends : NoComma rest) {steps : Nat} (enough : items.length ≤ steps) :
    commaList item steps ([.sign .comma].intercalate (items.map tokens) ++ rest) =
      .some (items.map value, rest) := by
  induction items generalizing steps with
  | nil => exact absurd rfl some
  | cons first others ih =>
    obtain ⟨steps, rfl⟩ : ∃ n, steps = n + 1 := ⟨steps - 1, by simp at enough; omega⟩
    have head : ∀ rest, item (tokens first ++ rest) = .some (value first, rest) :=
      each first (by simp)
    cases others with
    | nil => simp [commaList, bind_run, head, ends.acceptsSign_comma, pure_run]
    | cons second others =>
      have fewer : (second :: others).length ≤ steps := by simpa using enough
      have tail := ih (fun b member => each b (List.mem_cons_of_mem first member)) (by simp) fewer
      simp only [List.map_cons, List.intercalate_cons_cons, List.append_assoc,
        List.singleton_append] at tail ⊢
      simp [commaList, bind_run, head, acceptsSign_comma, map_run, tail]

theorem length_le_intercalate {tokens : β → List Token} {items : List β}
    (each : ∀ b ∈ items, tokens b ≠ []) :
    items.length ≤ ([Token.sign .comma].intercalate (items.map tokens)).length := by
  induction items with
  | nil => simp
  | cons first others ih =>
    have one : 1 ≤ (tokens first).length := List.length_pos_iff.mpr (each first (by simp))
    cases others with
    | nil => simpa using one
    | cons second others =>
      have tail := ih fun b member => each b (List.mem_cons_of_mem first member)
      simp only [List.map_cons, List.intercalate_cons_cons, List.length_append,
        List.length_cons] at tail ⊢
      omega

/-- Items with commas between them are read one by one, up to what is no comma. -/
theorem TakesList.list {item : Reading α} {tokens : β → List Token} {value : β → α}
    {items : List β} (each : ∀ b ∈ items, Takes item (tokens b) (value b))
    (visible : ∀ b ∈ items, tokens b ≠ []) (some : items ≠ []) :
    TakesList (list item) ([.sign .comma].intercalate (items.map tokens)) (items.map value) := by
  intro rest ends
  have enough : items.length ≤
      ([Token.sign .comma].intercalate (items.map tokens) ++ rest).length := by
    have least := length_le_intercalate visible
    rw [List.length_append]
    omega
  exact commaList_run each some ends enough

/-! ## Table definitions -/

theorem Takes.storage (s : Storage) : Takes storage [.word s.sqlName] s := by
  intro rest
  cases s <;> rfl

/-- The tokens of a column of a new table. -/
def columnTokens (column : String × Storage) : List Token :=
  [nameToken column.1, .word column.2.sqlName]

theorem Takes.columnDefinition (column : String × Storage) :
    Takes columnDefinition (columnTokens column) column :=
  (Takes.name column.1).bind (Takes.storage column.2).finish

/-- The tokens of the columns of a new table. -/
def bodyTokens (identity : String) (columns : List (String × Storage)) : List Token :=
  [.sign .comma].intercalate
    ((nameToken identity :: ["INTEGER", "PRIMARY", "KEY", "AUTOINCREMENT"].map .word) ::
      columns.map columnTokens)

theorem TakesList.tableBody (identity : String) (columns : List (String × Storage)) :
    TakesList tableBody (bodyTokens identity columns) (identity, columns) := by
  intro rest ends
  have name (ts : List Token) := Takes.name identity ts
  have words (ts : List Token) := Takes.words ["INTEGER", "PRIMARY", "KEY", "AUTOINCREMENT"] ts
  simp only [List.map_cons, List.map_nil, List.cons_append, List.nil_append] at name words
  cases columns with
  | nil =>
    simp [Reading.tableBody, bodyTokens, bind_run, name, words, ends.acceptsSign_comma, pure_run]
  | cons column others =>
    have each : ∀ other ∈ column :: others,
        Takes columnDefinition (columnTokens other) ((fun same => same) other) :=
      fun other _ => Takes.columnDefinition other
    have columns := TakesList.list each (by simp [columnTokens]) (by simp) rest ends
    simp only [List.map_id', List.map_cons] at columns
    simp only [bodyTokens, List.map_cons, List.intercalate_cons_cons, List.cons_append,
      List.nil_append, List.map_nil]
    simp [Reading.tableBody, bind_run, name, words, acceptsSign_comma, map_run, columns]

/-- The tokens of the statement that creates a table. -/
def definitionTokens (definition : TableDefinition) : List Token :=
  .word "CREATE" :: .word "TABLE" :: nameToken definition.name :: .sign .leftParen ::
    bodyTokens definition.identity definition.columns ++ [.sign .rightParen]

theorem Takes.create {ts : List Token} {made : Statement Operand}
    (takes : Takes createTable ts made) : Takes statement (.word "CREATE" :: ts) made := by
  intro rest
  simp [statement, bind_run, acceptsWord_run, sameName_self, takes rest]

/-- The tokens of a table definition are that definition. -/
theorem readStatement_definition (definition : TableDefinition) :
    readStatement (definitionTokens definition) =
      some (.createTable (quoteName definition.name) definition) := by
  have body := (TakesList.tableBody definition.identity definition.columns).parenthesized
  have name := Takes.spelledName definition.name
  have table : Takes createTable
      ([.word "TABLE"] ++ ([nameToken definition.name] ++
        (.sign .leftParen :: bodyTokens definition.identity definition.columns ++
          [.sign .rightParen])))
      (.createTable (quoteName definition.name) definition) :=
    (Takes.word (sameName_self "TABLE")).bind (name.bind body.finish)
  exact (Takes.create table).whole

end Reading

/-! ## Texts of one statement -/

theorem splitAtSemicolons_of_none {ts : List Token} (none : .sign .semicolon ∉ ts) :
    splitAtSemicolons ts = [ts] := by
  induction ts with
  | nil => rfl
  | cons t rest ih =>
    rw [List.mem_cons, not_or] at none
    simp [splitAtSemicolons, Ne.symm none.1, ih none.2]

theorem splitAtSemicolons_of_last {ts : List Token} (none : .sign .semicolon ∉ ts) :
    splitAtSemicolons (ts ++ [.sign .semicolon]) = [ts, []] := by
  induction ts with
  | nil => rfl
  | cons t rest ih =>
    rw [List.mem_cons, not_or] at none
    simp [splitAtSemicolons, Ne.symm none.1, ih none.2]

theorem Writes.script_single {text : String} {ts : List Token} {statement : Statement Operand}
    (written : Writes text ts) (read : readStatement ts = some statement) :
    script text = [some statement] := by
  have visible : ts ≠ [] := by
    rintro rfl
    cases read
  simp [script, written.tokens_eq, splitAtSemicolons_of_none written.single, visible, read]

theorem firstStatement?_of_script {text : String} {statement? : Option (Statement Operand)}
    (single : script text = [statement?]) : firstStatement? text = statement? := by
  rw [firstStatement?, single]

/-- A semicolon behind a statement adds none. -/
theorem Writes.script_closed {text : String} {ts : List Token} {statement : Statement Operand}
    (written : Writes text ts) (read : readStatement ts = some statement) :
    script (text ++ ";") = [some statement] := by
  have visible : ts ≠ [] := by
    rintro rfl
    cases read
  simp [script, written.tokens_closed, splitAtSemicolons_of_last written.single, visible, read]

end EntityTables.Sql
