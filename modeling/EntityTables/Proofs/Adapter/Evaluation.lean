/-
# EntityTables.Proofs.Adapter.Evaluation — what the schema block of an adapter evaluates to

The adapter's source states its schema as a chain of calls on a builder. This module gives that
chain its meaning, from its characters on: literals are read by the rules of source text, each call
adds what it says, and the last one builds. The paths of the type and of its parent come from
elsewhere, so the expressions that stand for them are given with their values.

* `Evaluating.schemaModel` — the block of the schema; `evaluate` — the block as a whole text.
* `column_run`, `builderCalls_run` — one column, and the chain.
* `Code.evaluate_schemaText` — the printed block means the steps that the adapter states.
-/
import EntityTables.Adapter.Source
import EntityTables.Proofs.Text.Literal
import EntityTables.Source.TokenReader

namespace EntityTables.Adapter

set_option autoImplicit false

open EntityTables.Source EntityTables.Text

/-- A step of evaluating source: a value and the source behind it, or none if the source is not of
the form that the step is for. -/
abbrev Evaluating (α : Type) := StateT (List Char) Option α

/-! ## Evaluation -/

namespace Evaluating

/-- A phrase that must come next, as it is written; blanks before it do not count. -/
def phrase (text : String) : Evaluating Unit := fun cs =>
  (dropWord? text.toList (cs.dropWhile isGap)).map fun rest => ((), rest)

/-- Whether a phrase comes next; it is passed over if it does. -/
def next? (text : String) : Evaluating Bool := fun cs =>
  match dropWord? text.toList (cs.dropWhile isGap) with
  | some rest => some (true, rest)
  | none => some (false, cs)

/-- A name. -/
def name : Evaluating String := fun cs =>
  match cs.takeWhile isIdentPart with
  | [] => none
  | chars => some (String.ofList chars, cs.dropWhile isIdentPart)

variable (known : List (String × String))

/-- A text: what a string literal stands for, or the value of an expression that is known. -/
def text : Evaluating String := fun cs =>
  match readString .text cs with
  | some (value, rest) => some (String.ofList value, rest)
  | none =>
    known.findSome? fun (expression, value) =>
      (dropWord? expression.toList cs).map fun rest => (value, rest)

/-- A declared type: a label, and the path it carries if it is one of those that do. -/
def declaredType : Evaluating DeclaredType := do
  phrase "::rowforge::compiler::DeclaredType::"
  let label ← name
  if ← next? "(" then
    phrase "::std::string::String::from("
    let path ← text known
    phrase "))"
    StateT.lift (DeclaredType.ofPathLabel? label path)
  else StateT.lift (DeclaredType.ofPlainLabel? label)

/-- The calls that change a column. -/
def columnCalls : Nat → Column → Evaluating Column
  | 0, _ => failure
  | fuel + 1, column => do
    if ← next? "." then
      match ← name with
      | "with_field" => do
        phrase "("
        let field ← text known
        phrase ")"
        columnCalls fuel (column.withField field)
      | "nullable" => do
        phrase "()"
        columnCalls fuel column.makeNullable
      | _ => failure
    else return column

/-- A column: a new one of a name and a type, and the calls that change it. -/
def column : Evaluating Column := do
  phrase "::rowforge::compiler::ColumnDescriptor::new("
  let name ← text known
  phrase ", "
  let declared ← declaredType known
  phrase ")"
  columnCalls known ((← get).length + 1) (.ofField name declared)

/-- The calls on a builder, up to the one that builds: the steps they take. -/
def builderCalls : Nat → Evaluating (List Schema.Step)
  | 0 => failure
  | fuel + 1 => do
    phrase "."
    match ← name with
    | "identity" => do
      phrase "("
      let identity ← text known
      phrase ")"
      return .identity identity :: (← builderCalls fuel)
    | "column" => do
      phrase "("
      let added ← column known
      phrase ")"
      return .column added :: (← builderCalls fuel)
    | "child_of" => do
      phrase "("
      let parent ← text known
      phrase ")"
      return .childOf parent :: (← builderCalls fuel)
    | "build" => do
      phrase "()"
      return []
    | _ => failure

/-- The block of the schema: what its function gives. -/
def schemaModel : Evaluating (Except SchemaError Schema) := do
  phrase ("fn schema_model() -> ::std::result::Result<::rowforge::compiler::SchemaModel, " ++
    "::rowforge::compiler::SchemaError> \x7b")
  phrase "::rowforge::compiler::SchemaModel::builder("
  let target ← text known
  phrase ")"
  let steps ← builderCalls known ((← get).length + 1)
  phrase "\x7d"
  return Schema.build target steps

end Evaluating

/-- The value of the block of a schema that is the whole of a text, where the values of some
expressions are known. -/
def evaluate (known : List (String × String)) (text : String) :
    Option (Except SchemaError Schema) :=
  match Evaluating.schemaModel known text.toList with
  | some (result, rest) => if rest.all isGap then some result else none
  | none => none

/-- The expressions for the paths of a type and of its parent, with their values. -/
def typePaths (target : String) (parent? : Option String) (typePath : String → String) :
    List (String × String) :=
  ("Self::type_path()", target) ::
    (parent?.map fun parent =>
      ("<" ++ parent ++ " as ::rowforge::Entity>::type_path()", typePath parent)).toList

/-! ## Phrases and names -/

namespace Evaluating

/-- A text begins with a character that is no blank. -/
def Solid (text : String) : Prop := ∃ c cs, text.toList = c :: cs ∧ isGap c = false

theorem Solid.append {text : String} (solid : Solid text) (more : String) :
    Solid (text ++ more) := by
  obtain ⟨c, cs, same, apart⟩ := solid
  exact ⟨c, cs ++ more.toList, by rw [String.toList_append, same, List.cons_append], apart⟩

theorem dropWord?_append (word rest : List Char) : dropWord? word (word ++ rest) = some rest := by
  induction word with
  | nil => rfl
  | cons c word ih => simp [dropWord?, ih]

/-- Blanks before what begins with no blank. -/
theorem dropWhile_blanks {blanks : List Char} (skipped : ∀ c ∈ blanks, isGap c = true)
    {text : String} (solid : Solid text) (rest : List Char) :
    (blanks ++ (text.toList ++ rest)).dropWhile isGap = text.toList ++ rest := by
  obtain ⟨c, cs, same, apart⟩ := solid
  rw [List.dropWhile_append_of_pos skipped, same, List.cons_append,
    List.dropWhile_cons_of_neg (by simp [apart])]

theorem phrase_run {blanks : List Char} (skipped : ∀ c ∈ blanks, isGap c = true)
    {text : String} (solid : Solid text) (rest : List Char) :
    phrase text (blanks ++ (text.toList ++ rest)) = some ((), rest) := by
  unfold phrase
  rw [dropWhile_blanks skipped solid, dropWord?_append]
  rfl

/-- A phrase without blanks before it. -/
theorem phrase_run' {text : String} (solid : Solid text) (rest : List Char) :
    phrase text (text.toList ++ rest) = some ((), rest) :=
  phrase_run (List.forall_mem_nil _) solid rest

theorem next?_run {text : String} (solid : Solid text) (rest : List Char) :
    next? text (text.toList ++ rest) = some (true, rest) := by
  have skipped := dropWhile_blanks (List.forall_mem_nil _) solid rest
  rw [List.nil_append] at skipped
  unfold next?
  rw [skipped, dropWord?_append]

/-- A text is a name. -/
def Named (text : String) : Prop := text.toList ≠ [] ∧ text.toList.all isIdentPart = true

instance (text : String) : Decidable (Named text) := inferInstanceAs (Decidable (_ ∧ _))

/-- A name ends before the text. -/
def Apart (cs : List Char) : Prop := ∃ c more, cs = c :: more ∧ isIdentPart c = false

/-- A name is read up to the first character that no name has. -/
theorem name_run {word : String} (named : Named word) {rest : List Char} (apart : Apart rest) :
    name (word.toList ++ rest) = some (word, rest) := by
  obtain ⟨c, more, rfl, apart⟩ := apart
  obtain ⟨some, whole⟩ := named
  have parts := List.all_eq_true.mp whole
  have taken : (word.toList ++ c :: more).takeWhile isIdentPart = word.toList := by
    rw [List.takeWhile_append_of_pos parts, List.takeWhile_cons_of_neg (by simp [apart]),
      List.append_nil]
  have behind : (word.toList ++ c :: more).dropWhile isIdentPart = c :: more := by
    rw [List.dropWhile_append_of_pos parts, List.dropWhile_cons_of_neg (by simp [apart])]
  unfold name
  rw [taken, behind]
  split
  · next none => exact absurd none some
  · rw [String.ofList_toList]

variable {known : List (String × String)}

/-- A literal stands for the text that it was written for. -/
theorem text_quoted (value : String) (rest : List Char) :
    text known ((quoted value).toList ++ rest) = some (value, rest) := by
  unfold text
  rw [toList_quoted, readString_quotedChars]
  simp [String.ofList_toList]

/-- A step and the next one. -/
theorem bind_run {α β : Type} {step : Evaluating α} {cs rest : List Char} {a : α}
    (first : step cs = some (a, rest)) (next : α → Evaluating β) :
    (step >>= next) cs = next a rest := by
  show (step cs >>= fun made => next made.1 made.2) = _
  rw [first]
  rfl

/-! ## Declared types -/

theorem named_label (declared : DeclaredType) : Named declared.label.1 := by
  have carriers : ∀ label ∈ ["Object", "OneToOne", "OneToMany", "Unsupported"], Named label := by
    decide
  cases declared with
  | integer type => cases type <;> decide
  | float precision => cases precision <;> decide
  | object path | oneToOne path | oneToMany path | unsupported path =>
    exact carriers _ (by simp [DeclaredType.label])
  | _ => decide

/-- The expression for a declared type means the type. -/
theorem declaredType_run (declared : DeclaredType) (rest : List Char) :
    declaredType known ((typeTerm declared).toList ++ (")".toList ++ rest)) =
      some (declared, ")".toList ++ rest) := by
  have named := named_label declared
  have solid : Solid "::rowforge::compiler::DeclaredType::" := ⟨_, _, rfl, by decide⟩
  unfold declaredType typeTerm
  split
  · next label same =>
    have label_eq : declared.label.1 = label := congrArg Prod.fst same
    have plain := DeclaredType.ofPlainLabel?_label (congrArg Prod.snd same)
    have behind : Apart (")".toList ++ rest) := ⟨')', rest, rfl, by decide⟩
    rw [label_eq] at named plain
    rw [String.toList_append, List.append_assoc, bind_run (phrase_run' solid _),
      bind_run (name_run named behind)]
    show StateT.lift (DeclaredType.ofPlainLabel? label) (')' :: rest) = _
    rw [plain]
    rfl
  · next label path same =>
    have label_eq : declared.label.1 = label := congrArg Prod.fst same
    have carried := DeclaredType.ofPathLabel?_label (congrArg Prod.snd same)
    rw [label_eq] at named carried
    have opening : Solid "(" := ⟨_, _, rfl, by decide⟩
    have inner : Solid "::std::string::String::from(" := ⟨_, _, rfl, by decide⟩
    have closing : Solid "))" := ⟨_, _, rfl, by decide⟩
    have split : "(::std::string::String::from(" = "(" ++ "::std::string::String::from(" := by
      decide
    rw [split]
    simp only [String.toList_append, List.append_assoc]
    have behind (more : List Char) : Apart ("(".toList ++ more) := ⟨'(', more, rfl, by decide⟩
    rw [bind_run (phrase_run' solid _), bind_run (name_run named (behind _)),
      bind_run (next?_run opening _)]
    simp only [if_true]
    rw [bind_run (phrase_run' inner _), bind_run (text_quoted path _),
      bind_run (phrase_run' closing _), carried]
    rfl

/-! ## Columns -/

theorem apart_paren (rest : List Char) : Apart ("(".toList ++ rest) := ⟨'(', rest, rfl, by decide⟩

/-- Before a closing parenthesis there is no further call. -/
theorem columnCalls_end (fuel : Nat) (made : Column) (rest : List Char) :
    columnCalls known (fuel + 1) made (")".toList ++ rest) = some (made, ")".toList ++ rest) := by
  have none : next? "." (")".toList ++ rest) = some (false, ")".toList ++ rest) := rfl
  rw [columnCalls, bind_run none]
  rfl

theorem columnCalls_nullable (fuel : Nat) (made : Column) (rest : List Char) :
    columnCalls known (fuel + 1) made (".nullable()".toList ++ rest) =
      columnCalls known fuel made.makeNullable rest := by
  have dot : Solid "." := ⟨_, _, rfl, by decide⟩
  have parens : Solid "()" := ⟨_, _, rfl, by decide⟩
  have text : ".nullable()" = "." ++ "nullable" ++ "()" := by decide
  have behind (more : List Char) : Apart ("()".toList ++ more) := ⟨'(', _, rfl, by decide⟩
  rw [text, String.toList_append, String.toList_append, List.append_assoc, List.append_assoc,
    columnCalls, bind_run (next?_run dot _)]
  simp only [if_true]
  rw [bind_run (name_run (by decide) (behind rest))]
  simp only
  rw [bind_run (phrase_run' parens _)]

theorem columnCalls_withField (fuel : Nat) (made : Column) (field : String) (rest : List Char) :
    columnCalls known (fuel + 1) made
        ((".with_field(" ++ quoted field ++ ")").toList ++ rest) =
      columnCalls known fuel (made.withField field) rest := by
  have dot : Solid "." := ⟨_, _, rfl, by decide⟩
  have opening : Solid "(" := ⟨_, _, rfl, by decide⟩
  have closing : Solid ")" := ⟨_, _, rfl, by decide⟩
  have text : ".with_field(" = "." ++ "with_field" ++ "(" := by decide
  rw [text]
  simp only [String.toList_append, List.append_assoc]
  rw [columnCalls, bind_run (next?_run dot _)]
  simp only [if_true]
  rw [bind_run (name_run (by decide) (apart_paren _))]
  simp only
  rw [bind_run (phrase_run' opening _), bind_run (text_quoted field _),
    bind_run (phrase_run' closing _)]

/-- The calls behind the two arguments of a new column. -/
def callsText (term : ColumnTerm) : String :=
  (match term.field? with
    | some field => ".with_field(" ++ quoted field ++ ")"
    | none => "") ++
  if term.nullable then ".nullable()" else ""

/-- These calls make the column of the term. -/
theorem columnCalls_run (term : ColumnTerm) {fuel : Nat}
    (enough : (callsText term).toList.length < fuel) (rest : List Char) :
    columnCalls known fuel (.ofField term.name term.declaredType)
        ((callsText term).toList ++ (")".toList ++ rest)) =
      some (term.column, ")".toList ++ rest) := by
  obtain ⟨name, declared, field?, nullable⟩ := term
  have long : 1 < ".nullable()".toList.length := by decide
  have longer : 1 < ".with_field(".toList.length := by decide
  cases field? with
  | none =>
    cases nullable with
    | false =>
      obtain ⟨fuel, rfl⟩ : ∃ less, fuel = less + 1 := ⟨fuel - 1, by omega⟩
      exact columnCalls_end fuel (.ofField name declared) rest
    | true =>
      have some : ".nullable()".toList.length < fuel := enough
      obtain ⟨fuel, rfl⟩ : ∃ less, fuel = less + 2 := ⟨fuel - 2, by omega⟩
      exact (columnCalls_nullable (fuel + 1) (.ofField name declared) _).trans
        (columnCalls_end fuel _ rest)
  | some field =>
    cases nullable with
    | false =>
      have some : ".with_field(".toList.length < fuel := by
        simp only [callsText, String.toList_append, List.length_append] at enough
        omega
      obtain ⟨fuel, rfl⟩ : ∃ less, fuel = less + 2 := ⟨fuel - 2, by omega⟩
      have text : callsText ⟨name, declared, .some field, false⟩ =
          ".with_field(" ++ quoted field ++ ")" := by simp [callsText]
      rw [text]
      exact (columnCalls_withField (fuel + 1) (.ofField name declared) field _).trans
        (columnCalls_end fuel _ rest)
    | true =>
      have some : ".with_field(".toList.length + ".nullable()".toList.length < fuel := by
        simp only [callsText, if_true, String.toList_append, List.length_append] at enough
        omega
      obtain ⟨fuel, rfl⟩ : ∃ less, fuel = less + 3 := ⟨fuel - 3, by omega⟩
      have text : callsText ⟨name, declared, .some field, true⟩ =
          ".with_field(" ++ quoted field ++ ")" ++ ".nullable()" := by simp [callsText]
      rw [text, String.toList_append, List.append_assoc]
      exact ((columnCalls_withField (fuel + 2) (.ofField name declared) field _).trans
        (columnCalls_nullable (fuel + 1) _ _)).trans (columnCalls_end fuel _ rest)

theorem source_eq (term : ColumnTerm) :
    term.source = "::rowforge::compiler::ColumnDescriptor::new(" ++ quoted term.name ++ ", " ++
      typeTerm term.declaredType ++ ")" ++ callsText term := by
  unfold ColumnTerm.source callsText
  exact String.append_assoc

/-- The expression for a column means the column. -/
theorem column_run (term : ColumnTerm) (rest : List Char) :
    column known (term.source.toList ++ (")".toList ++ rest)) =
      some (term.column, ")".toList ++ rest) := by
  have opening : Solid "::rowforge::compiler::ColumnDescriptor::new(" := ⟨_, _, rfl, by decide⟩
  have comma : Solid ", " := ⟨_, _, rfl, by decide⟩
  have closing : Solid ")" := ⟨_, _, rfl, by decide⟩
  rw [source_eq]
  simp only [column, String.toList_append, List.append_assoc]
  rw [bind_run (phrase_run' opening _), bind_run (text_quoted term.name _),
    bind_run (phrase_run' comma _), bind_run (declaredType_run term.declaredType _),
    bind_run (phrase_run' closing _)]
  refine columnCalls_run term ?_ rest
  show (callsText term).toList.length < ((callsText term).toList ++ _).length + 1
  rw [List.length_append]
  omega

/-! ## Calls on a builder -/

/-- A call as its method, and the argument up to the closing parenthesis. -/
theorem call_run {blanks : List Char} (skipped : ∀ c ∈ blanks, isGap c = true) {method : String}
    (named : Named method) {rest : List Char} (apart : Apart rest) {β : Type}
    (next : String → Evaluating β) :
    (phrase "." >>= fun _ => name >>= next) (blanks ++ (("." ++ method).toList ++ rest)) =
      next method rest := by
  have dot : Solid "." := ⟨_, _, rfl, by decide⟩
  rw [String.toList_append, List.append_assoc, bind_run (phrase_run skipped dot _),
    bind_run (name_run named apart)]

/-- The argument of a call, and the calls behind it. -/
theorem argument_run {α : Type} {argument : Evaluating α} {a : α} {text : String}
    (read : ∀ rest, argument (text.toList ++ (")".toList ++ rest)) = some (a, ")".toList ++ rest))
    (step : α → Schema.Step) {fuel : Nat} {rest left : List Char} {steps : List Schema.Step}
    (behind : builderCalls known fuel rest = some (steps, left)) :
    (do phrase "("
        let a ← argument
        phrase ")"
        return step a :: (← builderCalls known fuel) : Evaluating (List Schema.Step))
        ("(".toList ++ (text.toList ++ (")".toList ++ rest))) =
      some (step a :: steps, left) := by
  have opening : Solid "(" := ⟨_, _, rfl, by decide⟩
  have closing : Solid ")" := ⟨_, _, rfl, by decide⟩
  rw [bind_run (phrase_run' opening _), bind_run (read rest), bind_run (phrase_run' closing _),
    bind_run behind]
  rfl

/-- The text of a call is the method's name and the argument in parentheses. -/
theorem toList_call (method : String) {opened : String} (same : opened = "." ++ method ++ "(")
    (argument : String) (rest : List Char) :
    (opened ++ argument ++ ")").toList ++ rest =
      ("." ++ method).toList ++ ("(".toList ++ (argument.toList ++ (")".toList ++ rest))) := by
  rw [same]
  simp only [String.toList_append, List.append_assoc]

section Calls

variable {blanks rest left : List Char} {fuel : Nat} {steps : List Schema.Step}
  (skipped : ∀ c ∈ blanks, isGap c = true)
  (behind : builderCalls known fuel rest = some (steps, left))

include skipped behind

theorem builderCalls_identity (identity : String) :
    builderCalls known (fuel + 1)
        (blanks ++ ((".identity(" ++ quoted identity ++ ")").toList ++ rest)) =
      some (.identity identity :: steps, left) := by
  rw [toList_call "identity" (by decide), builderCalls,
    call_run skipped (by decide) (apart_paren _)]
  exact argument_run (fun _ => text_quoted identity _) .identity behind

theorem builderCalls_column (term : ColumnTerm) :
    builderCalls known (fuel + 1)
        (blanks ++ ((".column(" ++ term.source ++ ")").toList ++ rest)) =
      some (.column term.column :: steps, left) := by
  rw [toList_call "column" (by decide), builderCalls,
    call_run skipped (by decide) (apart_paren _)]
  exact argument_run (column_run term) .column behind

theorem builderCalls_childOf {expression path : String}
    (read : ∀ rest, text known (expression.toList ++ rest) = some (path, rest)) :
    builderCalls known (fuel + 1)
        (blanks ++ ((".child_of(" ++ expression ++ ")").toList ++ rest)) =
      some (.childOf path :: steps, left) := by
  rw [toList_call "child_of" (by decide), builderCalls,
    call_run skipped (by decide) (apart_paren _)]
  exact argument_run (fun _ => read _) .childOf behind

omit behind in
/-- The call that builds is the last one. -/
theorem builderCalls_build (rest : List Char) :
    builderCalls known (fuel + 1) (blanks ++ (".build()".toList ++ rest)) = some ([], rest) := by
  have parens : Solid "()" := ⟨_, _, rfl, by decide⟩
  have text : ".build()" = "." ++ "build" ++ "()" := by decide
  have apart : Apart ("()".toList ++ rest) := ⟨'(', _, rfl, by decide⟩
  rw [text, String.toList_append, List.append_assoc, builderCalls,
    call_run skipped (by decide) apart]
  simp only
  rw [bind_run (phrase_run' parens _)]
  rfl

end Calls

/-! ## Paths of types -/

section Paths

variable (target : String) (parent? : Option String) (typePath : String → String)

theorem text_self (rest : List Char) :
    text (typePaths target parent? typePath) ("Self::type_path()".toList ++ rest) =
      some (target, rest) := by
  have none : readString .text ("Self::type_path()".toList ++ rest) = Option.none := rfl
  unfold text
  rw [none]
  simp only [typePaths, List.findSome?_cons, dropWord?_append]
  rfl

theorem text_parent (parent : String) (rest : List Char) :
    text (typePaths target (some parent) typePath)
        (("<" ++ parent ++ " as ::rowforge::Entity>::type_path()").toList ++ rest) =
      some (typePath parent, rest) := by
  have front : ∃ more, ("<" ++ parent ++ " as ::rowforge::Entity>::type_path()").toList =
      '<' :: more := ⟨_, by simp only [String.toList_append]; rfl⟩
  obtain ⟨more, same⟩ := front
  have other : dropWord? "Self::type_path()".toList ('<' :: more ++ rest) = none := rfl
  have none : readString .text ('<' :: more ++ rest) = Option.none := rfl
  unfold text
  rw [same, none]
  simp only [typePaths, Option.map_some, Option.toList_some, List.findSome?_cons, other, same,
    dropWord?_append]
  rfl

end Paths

end Evaluating

/-! ## The block of the schema -/

/-- The blanks before a line. -/
def indentation (depth : Nat) : List Char := (String.join (List.replicate depth "    ")).toList

theorem isGap_indentation (depth : Nat) : ∀ c ∈ indentation depth, isGap c = true := by
  have blanks : ∀ c ∈ "    ".toList, isGap c = true := List.all_eq_true.mp (by decide)
  intro c member
  rw [indentation, String.toList_join] at member
  obtain ⟨text, among, inside⟩ := List.mem_flatMap.mp member
  rw [List.eq_of_mem_replicate among] at inside
  exact blanks c inside

theorem isGap_newLine (depth : Nat) : ∀ c ∈ '\n' :: indentation depth, isGap c = true := by
  intro c member
  rcases List.mem_cons.mp member with rfl | among
  · decide
  · exact isGap_indentation depth c among

/-- The characters of lines. -/
def charsOf (lines : List Line) : List Char := lines.flatMap fun line => line.text.toList

theorem toList_line {text : String} (solid : Evaluating.Solid text) (depth : Nat) :
    (Line.text (depth, text)).toList = indentation depth ++ (text.toList ++ ['\n']) := by
  have some : text ≠ "" := by
    rintro rfl
    obtain ⟨c, cs, same, -⟩ := solid
    cases same
  unfold Line.text
  rw [if_neg some]
  simp only [String.toList_append, List.append_assoc]
  rfl

/-- The end of a line and the line behind it, whose own end belongs to what follows. -/
theorem charsOf_cons {text : String} (solid : Evaluating.Solid text) (depth : Nat)
    (lines : List Line) (rest : List Char) :
    '\n' :: (charsOf ((depth, text) :: lines) ++ rest) =
      ('\n' :: indentation depth) ++ (text.toList ++ ('\n' :: (charsOf lines ++ rest))) := by
  unfold charsOf
  rw [List.flatMap_cons, toList_line solid]
  simp

namespace Code

/-- The line of a column. -/
def columnLine (term : ColumnTerm) : Line := (3, ".column(" ++ term.source ++ ")")

/-- The line of a parent, if there is one. -/
def parentLines (parent? : Option String) : List Line :=
  (parent?.map fun parent =>
    (3, ".child_of(" ++ ("<" ++ parent ++ " as ::rowforge::Entity>::type_path()") ++ ")")).toList

/-- The lines of the calls on the builder. -/
def callLines (code : Code) : List Line :=
  (3, ".identity(" ++ quoted code.identity ++ ")") ::
    (code.columns.map columnLine ++ (parentLines code.parent? ++ [(3, ".build()")]))

/-- The block of the schema as text. -/
def schemaText (code : Code) : String := String.join (code.schemaLines.map Line.text)

/-- The block is a part of the adapter's source. -/
theorem source_eq_schemaText (code : Code) :
    ∃ front back, code.source = front ++ code.schemaText ++ back := by
  refine ⟨String.join (([(0, "// Generated by rowforge. Do not modify!"),
      (0, "impl ::rowforge::Entity for " ++ code.typeName ++ " \x7b")] ++
      code.typePathLines ++ [(0, "")]).map Line.text),
    String.join (([(0, "")] ++ code.identityLines ++ [(0, "")] ++ code.encodeLines ++ [(0, "")] ++
      code.decodeLines ++ [(0, "\x7d")]).map Line.text), ?_⟩
  unfold source lines schemaText
  simp only [List.map_append, String.join_append, String.append_assoc]

/-- The line of a parent, put together from its call and the expression for the parent's path. -/
theorem parentLine_eq (parent : String) :
    ".child_of(<" ++ parent ++ " as ::rowforge::Entity>::type_path())" =
      ".child_of(" ++ ("<" ++ parent ++ " as ::rowforge::Entity>::type_path()") ++ ")" := by
  have opening : ".child_of(<" = ".child_of(" ++ "<" := by decide
  have closing : " as ::rowforge::Entity>::type_path())" =
      " as ::rowforge::Entity>::type_path()" ++ ")" := by decide
  rw [opening, closing]
  simp only [String.append_assoc]

theorem schemaLines_eq (code : Code) :
    code.schemaLines =
      (1, "fn schema_model() -> ::std::result::Result<::rowforge::compiler::SchemaModel, " ++
        "::rowforge::compiler::SchemaError> \x7b") ::
      (2, "::rowforge::compiler::SchemaModel::builder(" ++ "Self::type_path()" ++ ")") ::
      (code.callLines ++ [(1, "\x7d")]) := by
  have builder : "::rowforge::compiler::SchemaModel::builder(Self::type_path())" =
      "::rowforge::compiler::SchemaModel::builder(" ++ "Self::type_path()" ++ ")" := by decide
  unfold schemaLines callLines
  rw [builder]
  cases code.parent? with
  | none => simp [parentLines, columnLine]
  | some parent => simp [parentLines, columnLine, parentLine_eq]

open Evaluating

section Calls

variable {known : List (String × String)} {rest left : List Char} {fuel : Nat}
  {steps : List Schema.Step}

theorem solid_columnLine (term : ColumnTerm) : Solid (columnLine term).2 :=
  .append (.append ⟨_, _, rfl, by decide⟩ _) _

/-- The lines of columns add the columns, in order. -/
theorem builderCalls_columnLines (terms : List ColumnTerm) {lines : List Line}
    (behind : builderCalls known fuel ('\n' :: (charsOf lines ++ rest)) = some (steps, left)) :
    builderCalls known (fuel + terms.length)
        ('\n' :: (charsOf (terms.map columnLine ++ lines) ++ rest)) =
      some (terms.map (fun term => .column term.column) ++ steps, left) := by
  induction terms with
  | nil => exact behind
  | cons term others ih =>
    have line := charsOf_cons (solid_columnLine term) 3 (others.map columnLine ++ lines) rest
    rw [List.map_cons, List.cons_append]
    exact (congrArg _ line).trans (builderCalls_column (isGap_newLine 3) ih term)

/-- The line of a parent names the parent. -/
theorem builderCalls_parentLines (target : String) (parent? : Option String)
    (typePath : String → String) {lines : List Line}
    (behind : builderCalls (typePaths target parent? typePath) fuel
      ('\n' :: (charsOf lines ++ rest)) = some (steps, left)) :
    builderCalls (typePaths target parent? typePath) (fuel + (parentLines parent?).length)
        ('\n' :: (charsOf (parentLines parent? ++ lines) ++ rest)) =
      some ((parent?.map fun parent => .childOf (typePath parent)).toList ++ steps, left) := by
  cases parent? with
  | none => exact behind
  | some parent =>
    have solid : Solid (".child_of(" ++
        ("<" ++ parent ++ " as ::rowforge::Entity>::type_path()") ++ ")") :=
      .append (.append ⟨_, _, rfl, by decide⟩ _) _
    refine (congrArg _ (charsOf_cons solid 3 lines rest)).trans ?_
    exact builderCalls_childOf (isGap_newLine 3) behind (text_parent target typePath parent)

end Calls

/-- The calls on the builder are the steps that the adapter states. -/
theorem builderCalls_run (code : Code) (target : String) (typePath : String → String)
    (fuel : Nat) (rest : List Char) :
    builderCalls (typePaths target code.parent? typePath) (fuel + code.callLines.length)
        ('\n' :: (charsOf code.callLines ++ rest)) =
      some (code.steps typePath, '\n' :: rest) := by
  have build : builderCalls (typePaths target code.parent? typePath) (fuel + 1)
      ('\n' :: (charsOf [(3, ".build()")] ++ rest)) = some ([], '\n' :: rest) := by
    rw [charsOf_cons ⟨_, _, rfl, by decide⟩]
    exact builderCalls_build (isGap_newLine 3) _
  have columns := builderCalls_columnLines code.columns
    (builderCalls_parentLines target code.parent? typePath build)
  have solid : Solid (".identity(" ++ quoted code.identity ++ ")") :=
    .append (.append ⟨_, _, rfl, by decide⟩ _) _
  have whole := builderCalls_identity (isGap_newLine 3) columns code.identity
  rw [← charsOf_cons solid] at whole
  have same : fuel + code.callLines.length =
      fuel + 1 + (parentLines code.parent?).length + code.columns.length + 1 := by
    simp only [callLines, List.length_cons, List.length_append, List.length_map, List.length_nil]
    omega
  have steps : code.steps typePath = .identity code.identity ::
      (code.columns.map (fun term => .column term.column) ++
        ((code.parent?.map fun parent => .childOf (typePath parent)).toList ++ [])) := by
    unfold Code.steps
    cases code.parent? <;> simp
  rw [same, steps]
  exact whole

theorem length_text_pos (line : Line) : 0 < line.text.toList.length := by
  unfold Line.text
  split
  · decide
  · simp

/-- No text has more lines than characters. -/
theorem length_le_charsOf (lines : List Line) : lines.length ≤ (charsOf lines).length := by
  induction lines with
  | nil => exact Nat.zero_le _
  | cons line rest ih =>
    have some := length_text_pos line
    simp only [charsOf, List.flatMap_cons, List.length_cons, List.length_append] at ih ⊢
    omega

/-- What the function of the block begins with. -/
theorem solid_opening : Solid ("fn schema_model() -> ::std::result::Result<::rowforge::compiler::SchemaModel, " ++
    "::rowforge::compiler::SchemaError> \x7b") :=
  .append ⟨_, _, rfl, by decide⟩ _

/-- The block of a schema, in terms of its calls. -/
theorem schemaModel_run {known : List (String × String)} {target expression : String}
    {steps : List Schema.Step} {before between calls behind rest : List Char}
    (skipped : ∀ c ∈ before, isGap c = true) (more : ∀ c ∈ between, isGap c = true)
    (read : ∀ rest, text known (expression.toList ++ rest) = some (target, rest))
    (called : builderCalls known (calls.length + 1) calls = some (steps, behind))
    (closed : phrase "\x7d" behind = some ((), rest)) :
    schemaModel known (before ++
        (("fn schema_model() -> ::std::result::Result<::rowforge::compiler::SchemaModel, " ++
          "::rowforge::compiler::SchemaError> \x7b").toList ++ (between ++
        ("::rowforge::compiler::SchemaModel::builder(".toList ++ (expression.toList ++
          (")".toList ++ calls)))))) =
      some (Schema.build target steps, rest) := by
  have builder : Solid "::rowforge::compiler::SchemaModel::builder(" := ⟨_, _, rfl, by decide⟩
  have paren : Solid ")" := ⟨_, _, rfl, by decide⟩
  have length : (get : Evaluating (List Char)) calls = some (calls, calls) := rfl
  rw [schemaModel, bind_run (phrase_run skipped solid_opening _),
    bind_run (phrase_run more builder _), bind_run (read _), bind_run (phrase_run' paren _),
    bind_run length, bind_run called, bind_run closed]
  rfl

/-- The characters of the block: its opening, the type's path, and the calls. -/
theorem toList_schemaText (code : Code) :
    code.schemaText.toList =
      indentation 1 ++
        (("fn schema_model() -> ::std::result::Result<::rowforge::compiler::SchemaModel, " ++
          "::rowforge::compiler::SchemaError> \x7b").toList ++ (('\n' :: indentation 2) ++
        ("::rowforge::compiler::SchemaModel::builder(".toList ++ ("Self::type_path()".toList ++
          (")".toList ++ '\n' :: (charsOf code.callLines ++ charsOf [(1, "\x7d")])))))) := by
  have builder : Solid ("::rowforge::compiler::SchemaModel::builder(" ++ "Self::type_path()" ++
      ")") := .append (.append ⟨_, _, rfl, by decide⟩ _) _
  have whole : code.schemaText.toList = charsOf code.schemaLines := by
    unfold schemaText charsOf
    rw [String.toList_join, List.flatMap_map]
  have second := charsOf_cons builder 2 (code.callLines ++ [(1, "\x7d")]) []
  have calls : charsOf (code.callLines ++ [(1, "\x7d")]) =
      charsOf code.callLines ++ charsOf [(1, "\x7d")] := List.flatMap_append
  rw [List.append_nil, List.append_nil, calls] at second
  have first : charsOf code.schemaLines = indentation 1 ++
      (("fn schema_model() -> ::std::result::Result<::rowforge::compiler::SchemaModel, " ++
        "::rowforge::compiler::SchemaError> \x7b").toList ++
      ('\n' :: charsOf ((2, "::rowforge::compiler::SchemaModel::builder(" ++ "Self::type_path()" ++
        ")") :: (code.callLines ++ [(1, "\x7d")])))) := by
    rw [schemaLines_eq, charsOf, List.flatMap_cons, toList_line solid_opening, List.append_assoc,
      List.append_assoc]
    rfl
  rw [whole, first, second]
  simp only [String.toList_append, List.append_assoc]

/-- The printed block of a schema means the steps by which the adapter states the schema. -/
theorem evaluate_schemaText (code : Code) (target : String) (typePath : String → String) :
    evaluate (typePaths target code.parent? typePath) code.schemaText =
      some (Schema.build target (code.steps typePath)) := by
  have brace : Solid "\x7d" := ⟨_, _, rfl, by decide⟩
  let calls := '\n' :: (charsOf code.callLines ++ charsOf [(1, "\x7d")])
  have enough : calls.length + 1 = calls.length + 1 - code.callLines.length +
      code.callLines.length := by
    have fewer := length_le_charsOf code.callLines
    simp only [calls, List.length_cons, List.length_append]
    omega
  have called : builderCalls (typePaths target code.parent? typePath) (calls.length + 1) calls =
      some (code.steps typePath, '\n' :: charsOf [(1, "\x7d")]) := by
    rw [enough]
    exact builderCalls_run code target typePath _ _
  have closed : phrase "\x7d" ('\n' :: charsOf [(1, "\x7d")]) = some ((), ['\n']) := by
    have line := charsOf_cons brace 1 [] []
    rw [List.append_nil] at line
    rw [line]
    exact phrase_run (isGap_newLine 1) brace _
  unfold evaluate
  rw [toList_schemaText, schemaModel_run (isGap_indentation 1) (isGap_newLine 2)
    (text_self target code.parent? typePath) called closed]
  rfl

end Code

end EntityTables.Adapter
