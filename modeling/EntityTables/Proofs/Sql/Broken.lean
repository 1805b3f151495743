/-
# EntityTables.Proofs.Sql.Broken — names that SQL text cannot hold

SQL text ends at its first NUL. A name with that character is quoted, so its quotes stay open and
the text ends in what is no token; no reading of a statement goes past that. So with such a name a
text is no statement.

* `Breaks` — a piece of text that ends within quotes; `Breaks.name` — a name with NUL is one.
* `Reading.Keeps` — a reading that does not go past a broken token; `Keeps.statement`.
* `Schema.script_definition_broken` — a definition with NUL in a name.
* `firstStatement?_insertText_broken` — an addition with NUL in a name.
-/
import EntityTables.Proofs.Schema.Definition
import EntityTables.Proofs.Sql.Statements

namespace EntityTables

set_option autoImplicit false

open Sql

namespace Sql

/-! ## Texts that end within quotes -/

/-- A piece of one statement with a NUL, before which it is cut into tokens of which one is
broken. -/
def Breaks (text : String) (ts : List Token) : Prop :=
  .broken ∈ ts ∧ .sign .semicolon ∉ ts ∧
    ∃ before behind, text.toList = before ++ '\x00' :: behind ∧ '\x00' ∉ before ∧ Cuts before ts

namespace Breaks

variable {a b : String} {ts us : List Token}

/-- Nothing behind a NUL is looked at. -/
theorem append (broken : Breaks a ts) (b : String) : Breaks (a ++ b) ts := by
  obtain ⟨among, single, before, behind, parts, free, cut⟩ := broken
  refine ⟨among, single, before, behind ++ b.toList, ?_, free, cut⟩
  rw [String.toList_append, parts, List.append_assoc]
  rfl

/-- A piece that ends within quotes behind one that does not. -/
theorem blank (written : Writes a ts) (broken : Breaks b us) :
    Breaks (a ++ " " ++ b) (ts ++ us) := by
  obtain ⟨among, single, before, behind, parts, free, cut⟩ := broken
  have whole := written.spells _ _ (.cons (by simp)) cut.blank
  refine ⟨by simp [among], by simp [single, written.single], a.toList ++ ' ' :: before, behind,
    by simp [parts], ?_, whole⟩
  simp [written.free, free]

theorem comma (written : Writes a ts) (broken : Breaks b us) :
    Breaks (a ++ ", " ++ b) (ts ++ .sign .comma :: us) := by
  obtain ⟨among, single, before, behind, parts, free, cut⟩ := broken
  have comma := Cuts.sign (show soleSign? ',' = some .comma from rfl) cut.blank
  have whole := written.spells _ _ (.cons (by simp)) comma
  refine ⟨by simp [among], by simp [single, written.single], a.toList ++ ',' :: ' ' :: before,
    behind, by simp [parts], ?_, whole⟩
  simp [written.free, free]

theorem paren (broken : Breaks b us) : Breaks ("(" ++ b) (.sign .leftParen :: us) := by
  obtain ⟨among, single, before, behind, parts, free, cut⟩ := broken
  have whole := Cuts.sign (show soleSign? '(' = some .leftParen from rfl) cut
  exact ⟨by simp [among], by simp [single], '(' :: before, behind, by simp [parts], by simp [free],
    whole⟩

/-- Pieces with commas between them, of which one ends within quotes. -/
theorem commas {α : Type} {text : α → String} {items : List α}
    (each : ∀ a ∈ items, (∃ ts, Writes (text a) ts) ∨ ∃ ts, Breaks (text a) ts)
    (broken : ∃ a ∈ items, ∃ ts, Breaks (text a) ts) :
    ∃ us, Breaks (", ".intercalate (items.map text)) us := by
  induction items with
  | nil =>
    obtain ⟨a, member, -⟩ := broken
    cases member
  | cons a rest ih =>
    cases rest with
    | nil =>
      obtain ⟨other, member, ends⟩ := broken
      rw [List.mem_singleton.mp member] at ends
      simpa using ends
    | cons b rest =>
      have parts : ", ".intercalate ((a :: b :: rest).map text) =
          text a ++ ", " ++ ", ".intercalate ((b :: rest).map text) :=
        String.toList_inj.mp (by simp)
      rw [parts]
      obtain ⟨other, member, us, ends⟩ := broken
      rcases each a List.mem_cons_self with ⟨ts, written⟩ | ⟨ts, early⟩
      · rcases List.mem_cons.mp member with rfl | behind
        · exact ⟨us, (ends.append _).append _⟩
        · obtain ⟨vs, late⟩ := ih (fun c among => each c (.tail _ among)) ⟨other, behind, us, ends⟩
          exact ⟨_, comma written late⟩
      · exact ⟨ts, (early.append _).append _⟩

/-- Pieces with names in them, with commas between them, of which one name has NUL. -/
theorem commas_of_nul {α : Type} (name : α → String) {text : α → String} {items : List α}
    (written : ∀ a ∈ items, '\x00' ∉ (name a).toList → ∃ ts, Writes (text a) ts)
    (broken : ∀ a ∈ items, '\x00' ∈ (name a).toList → ∃ ts, Breaks (text a) ts)
    (nul : ∃ a ∈ items, '\x00' ∈ (name a).toList) :
    ∃ us, Breaks (", ".intercalate (items.map text)) us := by
  obtain ⟨a, member, nul⟩ := nul
  refine commas (fun b among => ?_) ⟨a, member, broken a member nul⟩
  by_cases inside : '\x00' ∈ (name b).toList
  · exact .inr (broken b among inside)
  · exact .inl (written b among inside)

theorem readQuoted_open (cs : List Char) : readQuoted (doubleQuotes cs) = none := by
  induction cs with
  | nil => rfl
  | cons c cs ih =>
    by_cases same : c = '"'
    · subst same
      simpa [doubleQuotes, readQuoted] using ih
    · simp only [doubleQuotes, List.flatMap_cons, same, if_false] at ih ⊢
      simp [readQuoted, same, ih]

/-- A name with NUL ends within quotes. -/
theorem name {name : String} (nul : '\x00' ∈ name.toList) :
    Breaks (quoteName name) [.broken] := by
  have quoted : isBare name = false := by
    refine Bool.eq_false_iff.mpr fun bare => ?_
    exact nul_notMem_of_isWordText (isBare_iff.mp bare).1 nul
  obtain ⟨before, behind, parts, free⟩ := List.eq_append_cons_of_mem nul
  have found : tokenFrom '"' (doubleQuotes before) = (.broken, []) := by
    simp [tokenFrom, quotedToken, readQuoted_open]
  refine ⟨by simp, by simp, '"' :: doubleQuotes before, doubleQuotes behind ++ ['"'], ?_, ?_,
    Cuts.nil.token (by decide) found (by simp)⟩
  · rw [toList_quoteName_of_not_bare quoted, parts]
    simp [doubleQuotes]
  · simpa [nul_mem_doubleQuotes] using free

theorem nameList {names : List String} (nul : ∃ name ∈ names, '\x00' ∈ name.toList) :
    ∃ us, Breaks (nameList names) us :=
  commas_of_nul id (fun _ _ free => ⟨_, Writes.name free⟩) (fun _ _ nul => ⟨_, name nul⟩) nul

/-- The tokens of a text up to its NUL. -/
theorem tokens_eq (broken : Breaks a ts) : tokens a = ts := by
  obtain ⟨-, -, before, behind, parts, free, cut⟩ := broken
  have ends : a.toList.takeWhile (· != '\x00') = before := by
    rw [parts, takeWhile_append_of_free free]
    simp
  simp only [tokens, ends]
  exact cut _ (Nat.le_refl _)

end Breaks

/-! ## Readings that stop before a broken token -/

namespace Reading

variable {α β : Type}

/-- A reading leaves every broken token. -/
def Keeps (reading : Reading α) : Prop :=
  ∀ ts a rest, reading ts = some (a, rest) → .broken ∈ ts → .broken ∈ rest

theorem Keeps.pure (a : α) : Keeps (Pure.pure a) := by
  intro ts b rest read member
  cases read
  exact member

theorem Keeps.failure : Keeps (Alternative.failure : Reading α) := by
  intro ts a rest read
  cases read

theorem Keeps.bind {reading : Reading α} {next : α → Reading β} (first : Keeps reading)
    (second : ∀ a, Keeps (next a)) : Keeps (reading >>= next) := by
  intro ts b rest read member
  rw [bind_run, Option.bind_eq_some_iff] at read
  obtain ⟨⟨a, left⟩, begun, ended⟩ := read
  exact second a left b rest ended (first ts a left begun member)

theorem Keeps.ite {condition : Prop} [Decidable condition] {left right : Reading α}
    (yes : Keeps left) (no : Keeps right) : Keeps (if condition then left else right) := by
  split
  · exact yes
  · exact no

theorem Keeps.accepts {fits : Token → Bool} (apart : fits .broken = false) :
    Keeps (accepts fits) := by
  intro ts a rest read member
  cases ts with
  | nil => cases member
  | cons t ts =>
    have read : (if fits t then some (true, ts) else some (false, t :: ts)) = some (a, rest) := read
    split at read
    · next taken =>
      cases read
      rcases List.mem_cons.mp member with rfl | behind
      · rw [apart] at taken
        cases taken
      · exact behind
    · cases read
      exact member

theorem Keeps.word (keyword : String) : Keeps (word keyword) :=
  .bind (.accepts rfl) fun _ => .ite (.pure ()) .failure

theorem Keeps.sign (s : Sign) : Keeps (sign s) :=
  .bind (.accepts rfl) fun _ => .ite (.pure ()) .failure

theorem Keeps.words (keywords : List String) : Keeps (words keywords) := by
  induction keywords with
  | nil => exact .pure ()
  | cons keyword rest ih => exact .bind (.word keyword) fun _ => ih

theorem Keeps.next {reading : Token → Reading α} (each : ∀ t, t ≠ .broken → Keeps (reading t))
    (none : reading .broken = Alternative.failure) : Keeps (next >>= reading) := by
  intro ts a rest read member
  cases ts with
  | nil => cases read
  | cons t ts =>
    have read : reading t ts = some (a, rest) := read
    by_cases same : t = .broken
    · rw [same, none] at read
      cases read
    · refine each t same ts a rest read ?_
      rcases List.mem_cons.mp member with first | behind
      · exact absurd first.symm same
      · exact behind

theorem Keeps.spelledName : Keeps spelledName := by
  refine .next (fun t apart => ?_) rfl
  cases t with
  | word text => exact .ite (.pure _) .failure
  | quoted name => exact .pure _
  | _ => exact .failure

theorem Keeps.name : Keeps Reading.name := .bind .spelledName fun _ => .pure _

theorem Keeps.storage : Keeps storage := by
  refine .next (fun t apart => ?_) rfl
  cases t with
  | word text =>
    simp only
    split
    · exact .pure _
    · exact .failure
  | _ => exact .failure

theorem Keeps.commaList {item : Reading α} (each : Keeps item) (steps : Nat) :
    Keeps (commaList item steps) := by
  induction steps with
  | zero => exact .failure
  | succ steps ih =>
    refine .bind each fun first => .bind (.accepts rfl) fun _ => .ite ?_ (.pure _)
    exact .bind ih fun _ => .pure _

theorem Keeps.list {item : Reading α} (each : Keeps item) : Keeps (list item) :=
  fun ts => Keeps.commaList each ts.length ts

theorem Keeps.parenthesized {reading : Reading α} (inner : Keeps reading) :
    Keeps (parenthesized reading) :=
  .bind (.sign _) fun _ => .bind inner fun _ => .bind (.sign _) fun _ => .pure _

theorem Keeps.tableBody : Keeps tableBody := by
  refine .bind .name fun _ => .bind (.words _) fun _ => .bind (.accepts rfl) fun _ => .ite ?_ (.pure _)
  exact .bind (.list (.bind .name fun _ => .bind .storage fun _ => .pure _)) fun _ => .pure _

theorem Keeps.createTable : Keeps createTable :=
  .bind (.word _) fun _ => .bind .spelledName fun _ => .bind (.parenthesized .tableBody)
    fun _ => .pure _

theorem Keeps.castOperand : Keeps castOperand := by
  refine .parenthesized (.next (fun t apart => ?_) rfl)
  cases t with
  | blob bytes => exact .bind (.words _) fun _ => .pure _
  | _ => exact .failure

theorem Keeps.operand : Keeps operand := by
  refine .next (fun t apart => ?_) rfl
  cases t with
  | placeholder => exact .pure _
  | integer n => exact .ite (.pure _) .failure
  | blob bytes => exact .pure _
  | word text => exact .ite (.pure _) (.ite .castOperand .failure)
  | _ => exact .failure

theorem Keeps.insert : Keeps insert := by
  refine .bind (.word _) fun _ => .bind .name fun _ => .bind (.accepts rfl) fun _ => .ite ?_ ?_
  · exact .bind (.word _) fun _ => .pure _
  · refine .bind (.parenthesized (.list .name)) fun _ => .bind (.word _) fun _ => ?_
    exact .bind (.parenthesized (.list .operand)) fun _ => .ite (.pure _) .failure

theorem Keeps.columnName : Keeps columnName := by
  refine .next (fun t apart => ?_) rfl
  cases t with
  | word text => exact .ite (.pure _) .failure
  | quoted name => exact .pure _
  | _ => exact .failure

theorem Keeps.columnCondition (column : ColumnName) : Keeps (columnCondition column) := by
  refine .next (fun t apart => ?_) rfl
  cases t with
  | sign s =>
    simp only
    split
    · exact .bind .operand fun _ => .pure _
    · exact .failure
  | word text =>
    refine .ite (.bind (.accepts rfl) fun _ => .ite ?_ ?_) .failure
    · exact .bind (.word _) fun _ => .pure _
    · exact .bind (.word _) fun _ => .pure _
  | _ => exact .failure

/-- However deep they are nested, conditions leave every broken token. -/
theorem Keeps.nested (steps : Nat) :
    Keeps (disjunction steps) ∧ Keeps (conjunction steps) ∧ Keeps (singleCondition steps) := by
  induction steps with
  | zero => exact ⟨.failure, .failure, .failure⟩
  | succ steps ih =>
    obtain ⟨disjunctions, conjunctions, singles⟩ := ih
    refine ⟨?_, ?_, ?_⟩
    · refine .bind conjunctions fun _ => .bind (.accepts rfl) fun _ => .ite ?_ (.pure _)
      exact .bind disjunctions fun _ => .pure _
    · refine .bind singles fun _ => .bind (.accepts rfl) fun _ => .ite ?_ (.pure _)
      exact .bind conjunctions fun _ => .pure _
    · refine .bind (.accepts rfl) fun _ => .ite ?_ (.bind .columnName .columnCondition)
      exact .bind disjunctions fun _ => .bind (.sign _) fun _ => .pure _

theorem Keeps.whereClause : Keeps whereClause := by
  refine .bind (.accepts rfl) fun _ => .ite (.bind ?_ fun _ => .pure _) (.pure _)
  exact fun ts => (Keeps.nested (3 * (ts.length + 1))).1 ts

theorem Keeps.sortKey : Keeps sortKey := by
  refine .bind .columnName fun _ => .bind (.accepts rfl) fun _ => .ite (.pure _) ?_
  exact .bind (.accepts rfl) fun _ => .pure _

theorem Keeps.orderClause : Keeps orderClause :=
  .bind (.accepts rfl) fun _ => .ite (.bind (.word _) fun _ => .list .sortKey) (.pure _)

theorem Keeps.update : Keeps update := by
  refine .bind .name fun _ => .bind (.word _) fun _ => .bind (.list ?_) fun _ => ?_
  · exact .bind .name fun _ => .bind (.sign _) fun _ => .bind .operand fun _ => .pure _
  · exact .bind .whereClause fun _ => .pure _

theorem Keeps.delete : Keeps delete :=
  .bind (.word _) fun _ => .bind .name fun _ => .bind .whereClause fun _ => .pure _

theorem Keeps.select : Keeps select := by
  have behind (columns : List ColumnName) : Keeps (do
      Reading.word "FROM"
      let table ← Reading.name
      let condition? ← Reading.whereClause
      return Statement.select columns table condition? (← Reading.orderClause)) :=
    .bind (.word _) fun _ => .bind .name fun _ => .bind .whereClause fun _ =>
      .bind .orderClause fun _ => .pure _
  refine .bind (.accepts rfl) fun _ => .ite ?_ ?_
  · exact .bind (.pure _) behind
  · exact .bind (.list .columnName) behind

/-- No statement goes past a broken token. -/
theorem Keeps.statement : Keeps statement := by
  have dropTable : Keeps dropTable := .bind (.words _) fun _ => .bind .name fun _ => .pure _
  refine .bind (.accepts rfl) fun _ => .ite .createTable ?_
  refine .bind (.accepts rfl) fun _ => .ite dropTable ?_
  refine .bind (.accepts rfl) fun _ => .ite .insert ?_
  refine .bind (.accepts rfl) fun _ => .ite .update ?_
  refine .bind (.accepts rfl) fun _ => .ite .delete ?_
  exact .bind (.word _) fun _ => .select

/-- With a broken token, some tokens are not the whole of anything. -/
theorem Keeps.whole_eq_none {reading : Reading α} (keeps : Keeps reading) {ts : List Token}
    (broken : .broken ∈ ts) : reading.whole ts = none := by
  unfold whole
  cases read : reading ts with
  | none => rfl
  | some made =>
    obtain ⟨a, rest⟩ := made
    have left := keeps ts a rest read broken
    cases rest with
    | nil => cases left
    | cons t rest => rfl

end Reading

/-- With a broken token, some tokens are no statement. -/
theorem readStatement_broken {ts : List Token} (broken : .broken ∈ ts) : readStatement ts = none :=
  Reading.Keeps.statement.whole_eq_none broken

/-- A text that ends within quotes is one part, and no statement. -/
theorem Breaks.script {text : String} {ts : List Token} (broken : Breaks text ts) :
    script text = [none] := by
  have some : ts ≠ [] := List.ne_nil_of_mem broken.1
  unfold Sql.script
  rw [broken.tokens_eq, splitAtSemicolons_of_none broken.2.1]
  simp [some, readStatement_broken broken.1]

theorem Breaks.firstStatement? {text : String} {ts : List Token} (broken : Breaks text ts) :
    firstStatement? text = none :=
  firstStatement?_of_script broken.script

end Sql

namespace Schema

/-- If a name of a column has NUL, the columns of a definition end within quotes. -/
theorem breaks_clauses {schema : Schema} {plans : List ColumnPlan}
    (broken : ∃ name ∈ schema.identity :: (schema.tableOf plans).columns.map Prod.fst,
      '\x00' ∈ name.toList) :
    ∃ us, Breaks (", ".intercalate (definitionClauses schema.identity plans)) us := by
  let clauses : List (String × String) :=
    (schema.identity, "INTEGER PRIMARY KEY AUTOINCREMENT") ::
      (plans.filter ColumnPlan.inTable).map fun plan => (plan.column.name, plan.storage.sqlName)
  have texts : definitionClauses schema.identity plans =
      clauses.map fun clause => quoteName clause.1 ++ " " ++ clause.2 := by
    simp [definitionClauses, clauses, identity_text, Function.comp_def]
  have names : schema.identity :: (schema.tableOf plans).columns.map Prod.fst =
      clauses.map Prod.fst := by
    simp [clauses, tableOf, ColumnPlan.declared, Function.comp_def]
  have typed : ∀ clause ∈ clauses, ∃ ts, Writes clause.2 ts := by
    intro clause member
    rcases List.mem_cons.mp member with rfl | behind
    · exact ⟨_, writes_identityType⟩
    · obtain ⟨plan, -, rfl⟩ := List.mem_map.mp behind
      exact ⟨_, writes_sqlName plan.storage⟩
  have ends {clause : String × String} (nul : '\x00' ∈ clause.1.toList) :
      Breaks (quoteName clause.1 ++ " " ++ clause.2) [.broken] :=
    ((Breaks.name nul).append " ").append clause.2
  rw [texts]
  refine Breaks.commas_of_nul Prod.fst (fun clause member free => ?_)
    (fun clause _ nul => ⟨_, ends nul⟩) ?_
  · obtain ⟨ts, written⟩ := typed clause member
    exact ⟨_, (Writes.name free).blank written⟩
  · obtain ⟨name, member, nul⟩ := broken
    rw [names] at member
    obtain ⟨clause, among, rfl⟩ := List.mem_map.mp member
    exact ⟨clause, among, nul⟩

/-- A definition with NUL in a name is no statement. -/
theorem script_definition_broken {schema : Schema} {plans : List ColumnPlan}
    (broken : ¬ (schema.tableOf plans).NulFree) : script (schema.definition plans) = [none] := by
  have table := Writes.word "TABLE" (by decide)
  have create := Writes.word "CREATE" (by decide)
  obtain ⟨ts, ends⟩ : ∃ ts, Breaks ("TABLE" ++ " " ++ quoteName schema.table ++ " " ++
      ("(" ++ ", ".intercalate (definitionClauses schema.identity plans) ++ ")") ++ ";") ts := by
    -- the text breaks off at its first NUL: in the table's name, or else within the columns
    by_cases named : '\x00' ∈ schema.table.toList
    · exact ⟨_, (((Breaks.blank table (.name named)).append _).append _).append _⟩
    · obtain ⟨us, clauses⟩ : ∃ us,
          Breaks (", ".intercalate (definitionClauses schema.identity plans)) us := by
        refine breaks_clauses ?_
        unfold TableDefinition.NulFree at broken
        push Not at broken
        obtain ⟨name, member, nul⟩ := broken
        rcases List.mem_cons.mp member with rfl | behind
        · exact absurd nul named
        · exact ⟨name, behind, nul⟩
      have inner := Breaks.blank (table.blank (.name named)) (clauses.paren.append ")")
      exact ⟨_, inner.append _⟩
  have text : schema.definition plans = "CREATE" ++ " " ++ ("TABLE" ++ " " ++
      quoteName schema.table ++ " " ++
        ("(" ++ ", ".intercalate (definitionClauses schema.identity plans) ++ ")") ++ ";") := by
    rw [definition_eq]
    ac_rfl
  have whole := Breaks.blank create ends
  rw [← text] at whole
  exact whole.script

end Schema

/-- An addition with NUL in a name is no statement. -/
theorem firstStatement?_insertText_broken {table : String} {names : List String}
    (broken : '\x00' ∈ table.toList ∨ ∃ name ∈ names, '\x00' ∈ name.toList) :
    firstStatement? (insertText table names) = none := by
  have insertInto : "INSERT INTO " = "INSERT" ++ " " ++ "INTO" ++ " " := by decide
  have insert := Writes.word "INSERT" (by decide)
  have into := Writes.word "INTO" (by decide)
  obtain ⟨ts, behind, parts, ends⟩ : ∃ (ts : List Token) (behind : String),
      insertText table names = "INSERT" ++ " " ++ behind ∧ Breaks behind ts := by
    by_cases named : '\x00' ∈ table.toList
    · -- the text breaks off in the table's name, whatever is behind that
      obtain ⟨rest, text⟩ : ∃ rest, insertText table names =
          "INSERT" ++ " " ++ ("INTO" ++ " " ++ quoteName table ++ rest) := by
        rw [insertText, insertInto]
        split
        · exact ⟨" DEFAULT VALUES", by ac_rfl⟩
        · exact ⟨" (" ++ nameList names ++ ") VALUES (" ++
            ", ".intercalate (names.map fun _ => "?") ++ ")", by ac_rfl⟩
      exact ⟨_, _, text, (Breaks.blank into (.name named)).append rest⟩
    · obtain ⟨name, member, nul⟩ := broken.resolve_left named
      obtain ⟨us, list⟩ := Breaks.nameList ⟨name, member, nul⟩
      have text : insertText table names = "INSERT" ++ " " ++ ("INTO" ++ " " ++ quoteName table ++
          " " ++ ("(" ++ nameList names) ++ (") VALUES (" ++
            ", ".intercalate (names.map fun _ => "?") ++ ")")) := by
        have opening : " (" = " " ++ "(" := by decide
        rw [insertText, if_neg (by simpa using List.ne_nil_of_mem member), insertInto, opening]
        ac_rfl
      exact ⟨_, _, text, (Breaks.blank (into.blank (.name named)) list.paren).append _⟩
  have whole := Breaks.blank insert ends
  rw [← parts] at whole
  exact whole.firstStatement?

end EntityTables
