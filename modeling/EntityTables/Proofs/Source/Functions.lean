/-
# EntityTables.Proofs.Source.Functions — functions and implementations read from their pieces

Statements, the bodies that hold them and the functions of an implementation, as trees and as
pieces. Each is read whole from its pieces if its names are words that may stand there.

* `Statement`, `Body`, `Method`, `printImplementation` — the trees and their pieces.
* `reads_statement`, `reads_body_print` — a statement; a body, by induction on its statements.
* `reads_method`, `reads_implementation` — a function; an implementation.
-/
import EntityTables.Proofs.Source.ExpressionReads

namespace EntityTables.Source

set_option autoImplicit false

open Reading

/-! ## Assignments -/

section Assignments

variable {structs : Bool} {after : List Piece} {m : Nat}

theorem nextRank_of_closes (ends : closes structs (first? after) = true) (position : Position) :
    nextRank (treesAt position after) = .lowest := by
  have assignment : startsAssignment (treesAt position after) = false := by
    rw [startsAssignment, startsPunct_treesAt, isMark_of_closes ends (by decide), Bool.false_and]
  rw [nextRank, operator?_of_closes ends, assignment,
    startsPunct_of_isMark position after (isMark_of_closes ends (by decide)), startsWord_treesAt,
    isWord_of_closes ends]
  rfl

/-- The step that `readRightOperand` repeats. -/
def rightStep (g : Grammar) (structs : Bool) (rank : Rank) (form : ExpressionForm) :
    Reading (ExpressionForm ⊕ Unit) := do
  let trees ← upcoming
  let next := nextRank trees
  if rank.level < next.level || next == rank && rank == .assignment then
    let form ← g.operation form structs next
    return if (← upcoming).length = trees.length then .inr () else .inl form
  else return .inr ()

theorem reads_rightStep_end {g : Grammar} {form : ExpressionForm}
    (ends : closes structs (first? after) = true) :
    Reads (repeated (rightStep g structs .assignment) form) after (fun _ => True) after := by
  refine reads_repeated_done _ (reads_upcoming fun position => ?_)
  rw [nextRank_of_closes ends]
  exact reads_pure ⟨(), rfl, trivial⟩

/-- What is assigned: an expression, perhaps a conversion. -/
theorem reads_rightOperand {value : Expression} (valid : value.Valid) (deep : value.depth ≤ m)
    (ends : closes structs (first? after) = true) :
    Reads (readRightOperand (.nested m) structs .assignment) (value.print after) (fun _ => True)
      after := by
  refine reads_bind (reads_expression_operand (fun k _ => (reads_expressions k).arguments)
    (fun k _ => reads_expressions k) valid deep ends) fun form closed => ?_
  cases value with
  | cast operand type =>
    refine reads_repeated_more (rightStep (.nested m) structs .assignment) after
      (S := fun _ => True) (reads_upcoming fun position => ?_) ?_
      fun next _ => reads_rightStep_end ends
    · have next : nextRank (treesAt position
          ((Expression.cast operand type).tail after)) = .cast := rfl
      rw [next]
      refine reads_bind (reads_operation_tail (.cast operand type) (.inr rfl) closed valid deep
        ends) fun form _ => ?_
      refine reads_upcoming fun behind => ?_
      have less := tokens_path type after
      rw [length_treesAt, length_treesAt, if_neg (by simp only [Expression.tail, tokens]; omega)]
      exact reads_pure ⟨_, rfl, trivial⟩
    · have less := tokens_path type after
      simp only [Expression.tail, tokens]
      omega
  | _ => exact reads_rightStep_end ends

/-- The operation of an assignment. -/
theorem reads_operation_assign {value : Expression} (valid : value.Valid)
    (deep : value.depth ≤ m) (ends : closes structs (first? after) = true) :
    Reads (readOperation (.nested m) .plain structs .lowest)
      (.gap [' '] :: .mark '=' :: .gap [' '] :: value.print after) (· = .plain) after := by
  refine reads_repeated_more (operationStep (.nested m) structs .lowest) after
    (S := (· = .plain)) (reads_upcoming fun position => ?_) ?_ ?_
  · show Reads (punct ['='] >>= fun _ => readRightOperand (.nested m) structs .assignment >>=
      fun _ => pure (Sum.inl ExpressionForm.plain)) _ _ _
    refine reads_gap (reads_bind (reads_punct '=') fun _ _ => ?_)
    exact reads_bind (reads_gap (reads_rightOperand valid deep ends)) fun _ _ =>
      reads_pure ⟨_, rfl, rfl⟩
  · have some := tokens_expression value after
    simp only [tokens]
    omega
  · rintro _ rfl
    exact reads_operation_end ends

end Assignments

/-! ## Statements -/

/-- A statement that a semicolon ends. -/
inductive Statement where
  /-- A new name for a value that may be changed. -/
  | declare (name : String) (value : Expression)
  | assign (place : Operand) (value : Expression)
  | run (operand : Operand)

/-- The pieces of a statement. -/
def Statement.print : Statement → List Piece → List Piece
  | .declare name value, after =>
    .word "let" :: .gap [' '] :: .word "mut" :: .gap [' '] :: .word name :: .gap [' '] ::
      .mark '=' :: .gap [' '] :: value.print (.mark ';' :: after)
  | .assign place value, after =>
    place.print (.gap [' '] :: .mark '=' :: .gap [' '] :: value.print (.mark ';' :: after))
  | .run operand, after => operand.print (.mark ';' :: after)

/-- The path that an operand begins with, if it begins with one. -/
def Operand.root? : Operand → Option Names
  | .path root | .call root _ => some root
  | .member operand _ | .method operand _ _ _ | .ask operand => operand.root?
  | _ => none

/-- Whether a path begins with a word that may begin a declaration. -/
def Names.declares (path : Names) : Bool :=
  !path.absolute && ["crate", "union", "auto", "default"].contains path.first

/-- An operand begins with a path and with no declaration. -/
def Operand.Begins (operand : Operand) : Prop :=
  ∃ path, operand.root? = some path ∧ path.declares = false

section Roots

variable {after : List Piece} {g : Grammar} {path : Names}

/-- An operand that begins with a path is printed as the path and what stands behind it. -/
theorem Operand.print_root : ∀ (operand : Operand) (after : List Piece), operand.Valid →
    operand.root? = some path → avoids [':', '!'] (first? after) = true →
    ∃ behind, path.Valid ∧ operand.print after = path.print behind ∧
      avoids [':', '!'] (first? behind) = true
  | .path _, after, valid, root, avoid => by
    cases root
    exact ⟨after, valid, rfl, avoid⟩
  | .call _ arguments, after, valid, root, _ => by
    cases root
    exact ⟨.group .paren (printArguments arguments) :: after, valid.1, rfl, rfl⟩
  | .member operand _, _, valid, root, _ => print_root operand _ valid.1 root rfl
  | .method operand _ _ _, _, valid, root, _ =>
    print_root operand _ valid.1 root (by rw [first?_lead]; rfl)
  | .ask operand, _, valid, root, _ => print_root operand _ valid root rfl
  | .text _, _, _, root, _ => by cases root
  | .unit, _, _, root, _ => by cases root
  | .associated _ _ _, _, _, root, _ => by cases root

/-- The step that `readPlainPath` repeats. -/
def plainStep (names : List String) : Reading (List String ⊕ List String) := do
  require startsSegment
  let names := names ++ [← anyWord]
  if ← optionalPunct [':', ':'] then return .inl names else return .inr names

theorem reads_plainPath (valid : path.Valid) (colon : isMark ':' (first? after) = false) :
    Reads readPlainPath (path.print after) (fun _ => True) after := by
  obtain ⟨absolute, first, more⟩ := path
  have names : ∀ found, Reads (repeated plainStep found) (.word first :: printMore more after)
      (fun _ => True) after := by
    have named := valid.named
    clear valid
    induction more generalizing first with
    | nil =>
      intro found
      refine reads_repeated_done _ (reads_bind (reads_require
        (startsSegment_word (named first List.mem_cons_self) · _)) fun _ _ => ?_)
      refine reads_bind (reads_anyWord first) fun _ _ => ?_
      refine reads_bind (reads_optionalPunct_no colon) ?_
      rintro _ rfl
      exact reads_pure ⟨_, rfl, trivial⟩
    | cons next more ih =>
      intro found
      refine reads_repeated_more _ (.word next :: printMore more after) (S := fun _ => True)
        (reads_bind (reads_require (startsSegment_word (named first List.mem_cons_self) · _))
          fun _ _ => ?_)
        (by simp [tokens, printMore])
        fun _ _ => ih next (fun name member => named name (.tail _ member)) _
      refine reads_bind (reads_anyWord first) fun _ _ => ?_
      refine reads_bind (reads_optionalColons_yes _) ?_
      rintro _ rfl
      exact reads_pure ⟨_, rfl, trivial⟩
  cases absolute with
  | true =>
    exact reads_bind (reads_optionalColons_yes _) fun _ _ => reads_bind (names []) fun _ _ =>
      reads_pure trivial
  | false =>
    exact reads_bind (reads_optionalPunct_no rfl) fun _ _ => reads_bind (names []) fun _ _ =>
      reads_pure trivial

/-- Behind a path stands no exclamation mark. -/
theorem behindBang?_path (valid : path.Valid) (avoid : avoids [':', '!'] (first? after) = true)
    (position : Position) : behindBang? (treesAt position (path.print after)) = none := by
  obtain ⟨_, behind, _, ran⟩ :=
    (reads_plainPath valid (isMark_of_avoids avoid (by decide))).on? position
  have none := startsPunct_of_isMark behind after (isMark_of_avoids avoid (c := '!') (by decide)) []
  rw [behindBang?, ran]
  exact Option.isNone_iff_eq_none.mp (Option.isSome_eq_false_iff.mp none)

/-- A path begins no declaration. -/
theorem startsDeclaration_path (valid : path.Valid) (plain : path.declares = false)
    (position : Position) : startsDeclaration (treesAt position (path.print after)) = false := by
  have noWord (keyword : String) (other : isName keyword = false) :
      isWord keyword (first? (path.print after)) = false := isWord_path valid other
  have special (keyword : String) (known : keyword ∈ ["crate", "union", "auto", "default"]) :
      isWord keyword (first? (path.print after)) = false := by
    rw [first?_path]
    unfold Names.declares at plain
    cases absolute : path.absolute with
    | true => rfl
    | false =>
      refine beq_false_of_ne ?_
      rintro rfl
      simp_all
  simp [startsDeclaration, startsConstantItem, startsOneOf_treesAt, startsWord_treesAt,
    noWord "pub" rfl, noWord "extern" rfl, noWord "use" rfl, noWord "fn" rfl, noWord "mod" rfl,
    noWord "type" rfl, noWord "struct" rfl, noWord "enum" rfl, noWord "trait" rfl,
    noWord "impl" rfl, noWord "macro" rfl, noWord "static" rfl, noWord "const" rfl,
    noWord "unsafe" rfl, noWord "async" rfl, special "crate" (by decide),
    special "union" (by decide), special "auto" (by decide), special "default" (by decide)]

/-- A statement that begins with a path is an expression. -/
theorem reads_statement_path {P : Bool → Prop} {rest : List Piece} (valid : path.Valid)
    (plain : path.declares = false) (avoid : avoids [':', '!'] (first? after) = true)
    (read : Reads (do
      let form ← g.body
      let ended ← optionalPunct [';']
      return !ended && form != .block && form != .bracedInvocation) (path.print after) P rest) :
    Reads (readStatement g) (path.print after) P rest := by
  refine reads_bind (reads_skipAttributes ?_) fun _ _ => reads_upcoming fun position => ?_
  · exact isMark_of_startsOperand (first?_operand_path valid) (by decide)
  have none := behindBang?_path valid avoid position
  rw [startsBracedInvocation, none, startsWord_treesAt, isWord_path valid rfl,
    startsDeclaration_path valid plain, startsNamedInvocation, none]
  exact read

end Roots

/-- How deep a grammar must be that takes a statement. -/
def Statement.depth : Statement → Nat
  | .declare _ value => value.depth
  | .assign place value => max place.depth value.depth + 2
  | .run operand => operand.depth + 2

/-- The names of a statement are words that may stand there, and it is what it seems to be. -/
def Statement.Valid : Statement → Prop
  | .declare name value => IsField name ∧ value.Valid
  | .assign place value => place.Valid ∧ place.Begins ∧ value.Valid
  | .run operand => operand.Valid ∧ operand.Begins

section Statements

variable {after : List Piece} {m : Nat}

theorem reads_operand_at {structs : Bool} {operand : Operand} (valid : operand.Valid)
    (deep : operand.depth ≤ m) (ends : endsOperand structs (first? after) = true) :
    Reads ((Grammar.nested (m + 1)).operand structs) (operand.print after) (· = .plain) after :=
  reads_operand (reads_expressions m).arguments valid deep ends

/-- A name that is bound to a value that may be changed. -/
theorem reads_pattern_mut {g : Grammar} {name : String} {rest : List Piece}
    (named : isIdentifier name = true) :
    Reads (readPattern g)
      (.word "mut" :: .gap [' '] :: .word name :: .gap [' '] :: .mark '=' :: rest) (fun _ => True)
      (.gap [' '] :: .mark '=' :: rest) := by
  have binding : Reads (readBinding g)
      (.word "mut" :: .gap [' '] :: .word name :: .gap [' '] :: .mark '=' :: rest)
      (fun _ => True) (.gap [' '] :: .mark '=' :: rest) := by
    refine reads_bind (reads_optionalWord_no rfl) fun _ _ => ?_
    refine reads_bind (reads_optionalWord_yes "mut") fun _ _ => ?_
    refine reads_gap (reads_bind (reads_optionalWord_no ?_) ?_)
    · exact beq_of_isIdentifier named rfl
    · rintro _ rfl
      refine reads_bind (reads_identifier named) fun _ _ => ?_
      refine reads_bind (reads_optionalPunct_no rfl) ?_
      rintro _ rfl
      exact reads_pure trivial
  refine reads_upcoming fun position => ?_
  show Reads (readBinding g >>= fun _ => pure PatternForm.plain) _ _ _
  exact reads_bind binding fun _ _ => reads_pure trivial

theorem reads_endsWithBrace {reading : Reading Unit} {before : List Piece}
    (read : Reads reading before (fun _ => True) after) :
    Reads (endsWithBrace reading) before (fun _ => True) after :=
  reads_upcoming fun _ => reads_bind read fun _ _ => reads_upcoming fun _ => reads_pure trivial

theorem reads_bindings {name : String} {value : Expression} (field : isIdentifier name = true)
    (valid : value.Valid) (deep : value.depth ≤ m + 1) :
    Reads (readBindings (.nested (m + 1))) ((Statement.declare name value).print after)
      (fun _ => True) after := by
  refine reads_bind (reads_word "let") fun _ _ => ?_
  refine reads_gap (reads_bind (reads_pattern_mut field) fun _ _ => ?_)
  refine reads_bind (reads_gap (reads_optionalPunct_no rfl)) ?_
  rintro _ rfl
  refine reads_bind (reads_optionalPunct_yes '=') ?_
  rintro _ rfl
  refine reads_bind (reads_endsWithBrace (reads_gap (reads_bind (reads_expressions (m + 1) value
    valid deep true _ rfl) fun _ _ => reads_pure trivial))) fun braced _ => ?_
  refine reads_bind (reads_optionalWord_no rfl) ?_
  rintro _ rfl
  rw [Bool.and_false]
  exact reads_punct ';'

/-- A statement, behind which others may follow. -/
theorem reads_statement {statement : Statement} (valid : statement.Valid)
    (deep : statement.depth ≤ m) :
    Reads (readStatement (.nested m)) (statement.print after) (· = false) after := by
  cases statement with
  | declare name value =>
    have some : 1 ≤ value.depth := by
      cases value <;> simp only [Expression.depth] <;> omega
    obtain ⟨m, rfl⟩ := Nat.exists_eq_add_of_le' (Nat.le_trans some deep)
    refine reads_bind (reads_skipAttributes rfl) fun _ _ => reads_upcoming fun position => ?_
    show Reads (readBindings (.nested (m + 1)) >>= fun _ => pure false) _ _ _
    exact reads_bind (reads_bindings valid.1.named valid.2 deep) fun _ _ => reads_pure rfl
  | assign place value =>
    obtain ⟨m, rfl⟩ := Nat.exists_eq_add_of_le' (Nat.le_trans (Nat.le_add_left 2 _) deep)
    obtain ⟨placeDeep, valueDeep⟩ := Nat.max_le.mp (Nat.le_of_add_le_add_right deep)
    obtain ⟨placeValid, ⟨path, root, plain⟩, valueValid⟩ := valid
    have read : Reads (Grammar.nested (m + 2)).body ((Statement.assign place value).print after)
        (· = .plain) (.mark ';' :: after) :=
      reads_body_of_operation placeValid (reads_operand_at placeValid placeDeep rfl)
        (reads_operation_assign valueValid valueDeep rfl)
    obtain ⟨behind, pathValid, same, avoid⟩ := place.print_root (.gap [' '] :: .mark '=' ::
      .gap [' '] :: value.print (.mark ';' :: after)) placeValid root rfl
    rw [Statement.print, same] at read ⊢
    refine reads_statement_path pathValid plain avoid (reads_bind read ?_)
    rintro _ rfl
    refine reads_bind (reads_optionalPunct_yes ';') ?_
    rintro _ rfl
    exact reads_pure rfl
  | run operand =>
    obtain ⟨m, rfl⟩ := Nat.exists_eq_add_of_le' (Nat.le_trans (Nat.le_add_left 2 _) deep)
    obtain ⟨valid, path, root, plain⟩ := valid
    have read := reads_body (.mark ';' :: after) valid rfl
      (reads_operand_at valid (Nat.le_of_add_le_add_right deep) rfl)
    have printed := operand.print_root (.mark ';' :: after) valid root rfl
    obtain ⟨behind, pathValid, same, avoid⟩ := printed
    rw [Statement.print, same]
    rw [same] at read
    refine reads_statement_path pathValid plain avoid (reads_bind read ?_)
    rintro _ rfl
    refine reads_bind (reads_optionalPunct_yes ';') ?_
    rintro _ rfl
    exact reads_pure rfl

theorem tokens_statement (statement : Statement) :
    tokens after < tokens (statement.print after) := by
  cases statement with
  | declare name value =>
    have some := tokens_expression value (.mark ';' :: after)
    simp only [Statement.print, tokens] at some ⊢
    omega
  | assign place value =>
    have first := tokens_expression value (.mark ';' :: after)
    have second := tokens_operand place (.gap [' '] :: .mark '=' :: .gap [' '] ::
      value.print (.mark ';' :: after))
    simp only [Statement.print, tokens] at first second ⊢
    omega
  | run operand =>
    have some := tokens_operand operand (.mark ';' :: after)
    simp only [Statement.print, tokens] at some ⊢
    omega

/-- What a statement begins with is no mark of these. -/
theorem isMark_statement {statement : Statement} (valid : statement.Valid) {c : Char}
    (other : c ∉ [':', '<']) : isMark c (first? (statement.print after)) = false := by
  cases statement with
  | declare name value => rfl
  | assign place value =>
    exact isMark_of_startsOperand (startsOperand_print place _ valid.1) other
  | run operand => exact isMark_of_startsOperand (startsOperand_print operand _ valid.1) other

end Statements

/-! ## Bodies of functions -/

/-- The blanks before a line of some depth. -/
def indent (depth : Nat) : List Char := '\n' :: List.replicate (4 * depth) ' '

/-- A function's body: statements, and perhaps a value behind them. -/
structure Body where
  statements : List Statement
  value? : Option Operand

/-- The pieces of statements, each on a line of its own. -/
def printStatements : List Statement → List Piece → List Piece
  | [], after => after
  | statement :: others, after =>
    .gap (indent 2) :: statement.print (printStatements others after)

/-- The pieces of a body. -/
def Body.print (body : Body) : List Piece :=
  printStatements body.statements <|
    match body.value? with
    | some value => .gap (indent 2) :: value.print [.gap (indent 1)]
    | none => [.gap (indent 1)]

/-- A body that is read by a grammar of some depth. -/
structure Body.Valid (body : Body) (depth : Nat) : Prop where
  statements : ∀ statement ∈ body.statements, statement.Valid ∧ statement.depth ≤ depth
  value : ∀ value ∈ body.value?, value.Valid ∧ value.Begins ∧ value.depth + 2 ≤ depth

section Bodies

variable {after : List Piece} {m : Nat}

/-- The step that `readStatements` repeats. -/
def statementStep (g : Grammar) : Reading Bool := do
  if ← optionalPunct [';'] then return true
  else if ← atEnd then return false
  else
    let last ← readStatement g
    if last then require List.isEmpty
    return true

theorem reads_statementStep {g : Grammar} {before : List Piece} (last : Bool)
    (semicolon : isMark ';' (first? before) = false) (some : (first? before).isNone = false)
    (read : Reads (readStatement g) before (· = last) after)
    (ended : last = true → (first? after).isNone = true) :
    Reads (statementStep g) before (· = true) after := by
  refine reads_bind (reads_optionalPunct_no semicolon) ?_
  rintro _ rfl
  refine reads_bind (reads_atEnd some) ?_
  rintro _ rfl
  refine reads_bind read fun found same => ?_
  subst same
  cases found with
  | false => exact reads_pure rfl
  | true =>
    exact reads_bind (reads_require fun position => (isEmpty_treesAt position after).trans
      (ended rfl)) fun _ _ => reads_pure rfl

/-- The end of a body. -/
theorem reads_statements_end {g : Grammar} (blanks : List Char) :
    Reads (many (statementStep g)) [.gap blanks] (fun _ => True) [] := by
  refine reads_many_done (reads_bind (reads_optionalPunct_no rfl) ?_)
  rintro _ rfl
  refine reads_bind (reads_atEnd rfl) ?_
  rintro _ rfl
  exact Reads.leave_gap (reads_pure (P := (· = false)) rfl)

/-- The value of a body is its last statement. -/
theorem reads_statements_value {value : Operand} {blanks : List Char} (valid : value.Valid)
    (begins : value.Begins) (deep : value.depth + 2 ≤ m) :
    Reads (many (statementStep (.nested m))) (value.print [.gap blanks]) (fun _ => True) [] := by
  obtain ⟨m, rfl⟩ := Nat.exists_eq_add_of_le' (Nat.le_trans (Nat.le_add_left 2 _) deep)
  obtain ⟨path, root, plain⟩ := begins
  have read := reads_body [.gap blanks] valid rfl
    (reads_operand_at valid (Nat.le_of_add_le_add_right deep) rfl)
  have fewer := tokens_operand value [.gap blanks]
  have starts := startsOperand_print value [.gap blanks] valid
  obtain ⟨behind, pathValid, same, avoid⟩ := value.print_root [.gap blanks] valid root rfl
  rw [same] at read fewer starts ⊢
  refine reads_many_more _ (reads_statementStep true
    (isMark_of_startsOperand starts (by decide))
    (ne_nil_of_tokens (Nat.lt_of_le_of_lt (Nat.zero_le _) fewer))
    (reads_statement_path pathValid plain avoid (reads_bind read ?_)) fun _ => rfl) fewer
    (reads_statements_end blanks)
  rintro _ rfl
  refine reads_bind (reads_optionalPunct_no rfl) ?_
  rintro _ rfl
  exact reads_pure rfl

/-- A body begins with no attribute. -/
theorem isMark_body {body : Body} (valid : body.Valid m) :
    isMark '#' (first? body.print) = false := by
  obtain ⟨statements, value?⟩ := body
  cases statements with
  | cons statement others =>
    exact isMark_statement (valid.statements statement List.mem_cons_self).1 (by decide)
  | nil =>
    cases value? with
    | none => rfl
    | some value =>
      exact isMark_of_startsOperand (startsOperand_print value _ (valid.value value rfl).1)
        (by decide)

/-- A body is read to its end. -/
theorem reads_body_print {body : Body} (valid : body.Valid m) :
    Reads (Grammar.nested (m + 1)).statements body.print (fun _ => True) [] := by
  show Reads (many (statementStep (.nested m))) _ _ _
  obtain ⟨statements, value?⟩ := body
  have all := valid.statements
  have value := valid.value
  clear valid
  unfold Body.print
  induction statements with
  | nil =>
    cases value? with
    | none => exact reads_statements_end _
    | some operand =>
      obtain ⟨operandValid, begins, deep⟩ := value operand rfl
      exact reads_gap (reads_statements_value operandValid begins deep)
  | cons statement others ih =>
    obtain ⟨statementValid, deep⟩ := all statement List.mem_cons_self
    refine reads_gap (reads_many_more _ (reads_statementStep false
      (isMark_statement statementValid (by decide))
      (ne_nil_of_tokens (Nat.lt_of_le_of_lt (Nat.zero_le _) (tokens_statement statement)))
      (reads_statement statementValid deep) nofun)
      (tokens_statement statement) (ih (fun other member => all other (.tail _ member)) value))

end Bodies

/-! ## Implementations -/

/-- A function with a body: its header behind the word that begins it, and what its body holds. -/
structure Method where
  header : List Piece
  inner : List Piece

/-- The pieces of a function. -/
def Method.print (method : Method) (after : List Piece) : List Piece :=
  .word "fn" :: .gap [' '] :: (method.header ++
    .gap [' '] :: .group .brace method.inner :: after)

/-- The functions of an implementation behind some blanks, with an empty line between them. -/
def printMethods (blanks : List Char) : List Method → List Piece
  | [] => [.gap ['\n']]
  | method :: others => .gap blanks :: method.print (printMethods ('\n' :: indent 1) others)

section Implementations

variable {after : List Piece} {g : Grammar}

theorem tokens_append (front rest : List Piece) :
    tokens (front ++ rest) = tokens front + tokens rest := by
  fun_induction tokens front with
  | case1 => exact (Nat.zero_add _).symm
  | case2 blanks front ih => exact ih
  | case3 piece front solid ih =>
    cases piece with
    | gap blanks => exact absurd rfl (solid blanks)
    | _ =>
      show tokens (front ++ rest) + 1 = tokens front + 1 + tokens rest
      omega

/-- A function is read if its header and its body are. -/
structure Method.Reads (method : Method) (g : Grammar) : Prop where
  header : ∀ after, EntityTables.Source.Reads (readSignature g false) (method.print after)
    (fun _ => True) (.group .brace method.inner :: after)
  plain : isMark '#' (first? method.inner) = false
  inner : EntityTables.Source.Reads g.statements method.inner (fun _ => True) []

theorem reads_visibility_none {before : List Piece} (no : isWord "pub" (first? before) = false) :
    Reads readVisibility before (· = false) before := by
  refine reads_bind (reads_optionalWord_no no) ?_
  rintro _ rfl
  exact reads_pure rfl

theorem reads_conditions_none {before : List Piece}
    (no : isWord "where" (first? before) = false) :
    Reads (readConditions g) before (· = false) before := by
  refine reads_bind (reads_ahead _ fun position =>
    (startsWord_treesAt position before _).trans no) ?_
  rintro _ rfl
  exact reads_pure rfl

theorem reads_method {method : Method} (read : method.Reads g) :
    Reads (readImplMember g) (method.print after) (fun _ => True) after := by
  have function : Reads (readFunction g false) (method.print after) (· = true) after := by
    refine reads_bind (read.header after) fun _ _ => ?_
    refine reads_bind (reads_optionalPunct_no rfl) ?_
    rintro _ rfl
    refine reads_bind (reads_inside (reads_bind (reads_innerAttributes_none read.plain) fun _ _ =>
      read.inner)) fun _ _ => reads_pure rfl
  refine reads_bind (reads_skipAttributes rfl) fun _ _ => ?_
  refine reads_bind (reads_visibility_none rfl) fun visible _ => ?_
  refine reads_bind (reads_ahead false fun _ => rfl) ?_
  rintro _ rfl
  refine reads_bind (reads_pure (P := (· = false)) rfl) fun isDefault _ => ?_
  refine reads_upcoming fun position => ?_
  have starts : startsFunction false (treesAt position (method.print after)) = true := rfl
  rw [starts]
  exact reads_verbatimIf (reads_bind function fun _ _ => reads_pure (P := fun _ => True) trivial)

/-- All functions of an implementation are read. -/
theorem reads_methods {methods : List Method} (read : ∀ method ∈ methods, method.Reads g)
    (blanks : List Char) :
    Reads (readDeclarations (readImplMember g)) (printMethods blanks methods) (fun _ => True)
      [] := by
  induction methods generalizing blanks with
  | nil =>
    refine reads_many_done (reads_bind (reads_atEnd rfl) ?_)
    rintro _ rfl
    exact Reads.leave_gap (reads_pure (P := (· = false)) rfl)
  | cons method others ih =>
    refine reads_many_more (printMethods ('\n' :: indent 1) others)
      (reads_bind (reads_atEnd rfl) ?_) ?_
      (ih (fun other member => read other (.tail _ member)) ('\n' :: indent 1))
    · rintro _ rfl
      exact reads_bind (reads_gap (reads_method (read method List.mem_cons_self))) fun _ _ =>
        reads_pure rfl
    · simp only [printMethods, Method.print, tokens, tokens_append]
      omega

/-- The pieces of an implementation of a trait. -/
def printImplementation (trait type : Names) (methods : List Method) : List Piece :=
  .word "impl" :: .gap [' '] :: trait.print (.gap [' '] :: .word "for" :: .gap [' '] ::
    type.print [.gap [' '], .group .brace (printMethods (indent 1) methods), .gap ['\n']])

/-- An implementation of a trait for a type is one if its functions are; the trait's path begins
with `::`. -/
theorem reads_implementation {trait type : Names} {methods : List Method} {m : Nat}
    (absolute : trait.absolute = true) (traitValid : trait.Valid) (valid : type.Valid)
    (read : ∀ method ∈ methods, method.Reads (.nested (m + 1))) :
    Reads (readImplementation (.nested (m + 1))) (printImplementation trait type methods)
      (· = true) [.gap ['\n']] := by
  obtain ⟨_, first, more⟩ := trait
  cases absolute
  refine reads_bind (reads_optionalWord_no rfl) fun _ _ => ?_
  refine reads_bind (reads_optionalWord_no rfl) fun _ _ => ?_
  refine reads_bind (reads_word "impl") fun _ _ => reads_gap ?_
  refine reads_bind (reads_ahead false fun _ => rfl) ?_
  rintro _ rfl
  refine reads_bind (reads_ahead false fun _ => rfl) ?_
  rintro _ rfl
  refine reads_bind (reads_ahead false fun _ => rfl) ?_
  rintro _ rfl
  refine reads_bind (reads_pathType (g := .nested m) traitValid rfl) ?_
  rintro _ rfl
  refine reads_gap (reads_bind (reads_optionalWord_yes "for") ?_)
  rintro _ rfl
  refine reads_gap (reads_bind (reads_typeText valid rfl) fun _ _ => reads_gap ?_)
  refine reads_bind (reads_conditions_none rfl) fun _ _ => ?_
  refine reads_bind (P := fun _ => True) (reads_inside ?_) fun _ _ => reads_pure rfl
  refine reads_bind (reads_innerAttributes_none ?_) fun _ _ => reads_methods read _
  cases methods <;> rfl

end Implementations

end EntityTables.Source
