/-
# EntityTables.Proofs.Source.ExpressionReads — every expression is read from its pieces

By induction on the depth of the grammar: what an expression is made of is read by shallower ones.

* `reads_pattern_name`, `reads_pattern_some` — patterns; `reads_choice` — a choice.
* `reads_operand` — an operand, by induction on its trailers.
* `reads_expressions` — every expression.
-/
import EntityTables.Proofs.Source.Operands

namespace EntityTables.Source

set_option autoImplicit false

open Reading

/-! ## Patterns -/

section Patterns

variable {after : List Piece} {g : Grammar} {name : String}

/-- A name that is bound. -/
theorem reads_pattern_name (named : isIdentifier name = true)
    (avoid : avoids [':', '!', '.', '@'] (first? after) = true)
    (brace : isGroup .brace (first? after) = false)
    (paren : isGroup .paren (first? after) = false) :
    Reads (readPattern g) (.word name :: after) (fun _ => True) after := by
  have noWord (keyword : String) (other : isIdentifier keyword = false) :
      isWord keyword (first? (.word name :: after)) = false := beq_of_isIdentifier named other
  have binding : Reads (readBinding g) (.word name :: after) (fun _ => True) after := by
    refine reads_bind (reads_optionalWord_no (noWord "ref" rfl)) fun _ _ => ?_
    refine reads_bind (reads_optionalWord_no (noWord "mut" rfl)) fun _ _ => ?_
    refine reads_bind (reads_optionalWord_no (noWord "self" rfl)) ?_
    rintro _ rfl
    refine reads_bind (reads_identifier named) fun _ _ => ?_
    refine reads_bind (reads_optionalPunct_no (isMark_of_avoids avoid (by decide))) ?_
    rintro _ rfl
    exact reads_pure trivial
  refine reads_upcoming fun position => ?_
  have behind : (treesAt position (.word name :: after)).drop 1 =
      treesAt (position.behind name.toList) after := rfl
  have path : startsPathPattern (treesAt position (.word name :: after)) = false := by
    rw [startsPathPattern, behind, startsPunct_of_isMark _ _ (isMark_of_avoids avoid (by decide)),
      startsPunct_treesAt, isMark_of_avoids avoid (by decide), startsGroup_treesAt, brace,
      startsGroup_treesAt, paren, startsPunct_of_isMark _ _ (isMark_of_avoids avoid (by decide)),
      startsWord_treesAt, noWord "self" rfl, startsOneOf_treesAt]
    simp [noWord "Self" rfl, noWord "super" rfl, noWord "crate" rfl]
    exact ⟨rfl, rfl⟩
  have literal : startsLiteral (treesAt position (.word name :: after)) = false := by
    show (name == "true" || name == "false") = false
    rw [beq_of_isIdentifier named rfl, beq_of_isIdentifier named rfl]
    rfl
  have minus : startsPunct ['-'] (treesAt position (.word name :: after)) = false := rfl
  rw [path, startsWord_treesAt, noWord "_" rfl, startsWord_treesAt, noWord "box" rfl, minus,
    literal, startsWord_treesAt, noWord "const" rfl, startsIdentifier_word, named, Bool.or_true]
  exact reads_bind binding fun _ _ => reads_pure trivial

/-- A pattern without alternatives. -/
theorem reads_alternatives_one {before : List Piece} (bar : isMark '|' (first? before) = false)
    (read : Reads g.pattern before (fun _ => True) after)
    (alone : isMark '|' (first? after) = false) :
    Reads (readAlternatives g) before (fun _ => True) after := by
  refine reads_bind (reads_optionalPunct_no bar) ?_
  rintro _ rfl
  refine reads_bind read fun form _ => ?_
  refine reads_bind (reads_ahead false fun position => ?_) ?_
  · rw [startsAlternative, startsPunct_treesAt, alone, Bool.false_and, Bool.false_and]
  · rintro _ rfl
    exact reads_pure trivial

/-- One name in parentheses behind another: the pattern of a value that is there. -/
theorem reads_pattern_some {m : Nat} (named : isIdentifier name = true) (rest : List Piece) :
    Reads (readPattern (.nested (m + 1)))
      (.word "Some" :: .group .paren [.word name] :: .gap [' '] :: .mark '=' :: rest)
      (fun _ => True) (.gap [' '] :: .mark '=' :: rest) := by
  have held : Reads (readAlternatives (.nested (m + 1))) [.word name] (fun _ => True) [] :=
    reads_alternatives_one rfl (reads_pattern_name (g := .nested m) named rfl rfl rfl) rfl
  have list : Reads (commas (readAlternatives (.nested (m + 1)))) [.word name] (fun _ => True) [] :=
    reads_commas (separated_last (fun _ => rfl) held fun _ => rfl)
  have some : (⟨false, "Some", []⟩ : Names).Valid := ⟨by decide, by decide⟩
  refine reads_upcoming fun position => ?_
  show Reads (readPathPattern (.nested (m + 1))) _ _ _
  refine reads_bind (reads_path some rfl rfl) ?_
  rintro _ rfl
  refine reads_upcoming fun position => ?_
  show Reads (inside .paren (commas (readAlternatives (.nested (m + 1)))) >>= fun _ =>
    pure PatternForm.plain) _ _ _
  exact reads_bind (reads_inside list) fun _ _ => reads_pure trivial

end Patterns

/-! ## Operands and expressions -/

/-- What the operand of an expression leaves: a conversion, if it has one. -/
def Expression.tail : Expression → List Piece → List Piece
  | .cast _ type, after => .gap [' '] :: .word "as" :: .gap [' '] :: type.print after
  | _, after => after

section Operands

variable {g : Grammar} {structs : Bool} {before middle after : List Piece}

theorem reads_lead {α : Type} {reading : Reading α} {P : α → Prop} (blanks : List Char)
    (read : Reads reading before P after) : Reads reading (lead blanks before) P after := by
  cases blanks with
  | nil => exact read
  | cons c blanks => exact reads_gap read

/-- An operand without signs is an atom and what stands behind it. -/
theorem reads_operand_unsigned {form : ExpressionForm} (whole : form ≠ .range)
    (avoid : ∀ c ∈ ['#', '&', '*', '!', '-'], isMark c (first? before) = false)
    (read : Reads (readAtom g structs >>= readTrailers g) before (· = form) after) :
    Reads (readOperand g structs) before (· = form) after := by
  refine reads_bind (reads_attributes_none (avoid '#' (by decide))) ?_
  rintro _ rfl
  refine reads_upcoming fun position => ?_
  have signed : ([['*'], ['!'], ['-']].any (startsPunct · (treesAt position before))) = false := by
    simp [startsPunct_treesAt, avoid '*' (by decide), avoid '!' (by decide),
      avoid '-' (by decide)]
  rw [startsPunct_treesAt, avoid '&' (by decide), signed]
  show Reads (readAtom g structs >>= fun atom => readTrailers g atom >>= fun form => _) _ _ _
  rw [← bind_assoc]
  refine reads_bind read ?_
  rintro _ rfl
  exact reads_bind (reads_require fun _ => rfl) fun _ _ => reads_pure rfl

theorem startsOneOf_behind_path (path : Names) (position : Position)
    (noMut : isWord "mut" (first? after) = false) (noConst : isWord "const" (first? after) = false) :
    startsOneOf ["mut", "const"] ((treesAt position (path.print after)).drop 1) = false := by
  obtain ⟨absolute, first, more⟩ := path
  cases absolute with
  | true => rfl
  | false =>
    show startsOneOf ["mut", "const"] (treesAt _ (printMore more after)) = false
    cases more with
    | nil => simp [printMore, startsOneOf_treesAt, noMut, noConst]
    | cons next more => rfl

/-- The second word of an operand does not make a sign of its first. -/
theorem startsOneOf_behind : ∀ (operand : Operand) (after : List Piece) (position : Position),
    operand.Valid → isWord "mut" (first? after) = false → isWord "const" (first? after) = false →
    startsOneOf ["mut", "const"] ((treesAt position (operand.print after)).drop 1) = false
  | .path path, _, position, _, noMut, noConst =>
    startsOneOf_behind_path path position noMut noConst
  | .text _, after, _, _, noMut, noConst => by
    show startsOneOf ["mut", "const"] (treesAt _ after) = false
    simp [startsOneOf_treesAt, noMut, noConst]
  | .unit, after, _, _, noMut, noConst => by
    show startsOneOf ["mut", "const"] (treesAt _ after) = false
    simp [startsOneOf_treesAt, noMut, noConst]
  | .call path _, _, position, _, _, _ => startsOneOf_behind_path path position rfl rfl
  | .associated type _ _, _, _, valid, _, _ => by
    show startsOneOf ["mut", "const"] (treesAt _ (type.print _)) = false
    have noWord (keyword : String) (other : isName keyword = false) (rest : List Piece) :
        isWord keyword (first? (type.print rest)) = false := isWord_path valid.1 other
    simp [startsOneOf_treesAt, noWord "mut" rfl, noWord "const" rfl]
  | .member operand _, _, position, valid, _, _ =>
    startsOneOf_behind operand _ position valid.1 rfl rfl
  | .method operand blanks _ _, _, position, valid, _, _ =>
    startsOneOf_behind operand _ position valid.1 (by rw [first?_lead]; rfl)
      (by rw [first?_lead]; rfl)
  | .ask operand, _, position, valid, _, _ =>
    startsOneOf_behind operand _ position valid rfl rfl

/-- A sign, and the operand behind it. -/
theorem reads_operand_signed {sign : Char} {operand : Operand} {P : ExpressionForm → Prop}
    (known : sign = '&' ∨ sign = '*') (valid : operand.Valid)
    (ends : endsOperand structs (first? after) = true)
    (read : Reads (g.operand structs) (operand.print after) P after) :
    Reads (readOperand g structs) (.mark sign :: operand.print after) (· = .plain) after := by
  have starts := startsOperand_print operand after valid
  rcases known with rfl | rfl
  · refine reads_bind (reads_attributes_none rfl) fun found _ => ?_
    refine reads_upcoming fun position => ?_
    have second : startsOneOf ["mut", "const"]
        (((treesAt position (.mark '&' :: operand.print after)).drop 1).drop 1) = false :=
      startsOneOf_behind operand after (position.behind ['&']) valid
        (isWord_of_endsOperand ends (by decide)) (isWord_of_endsOperand ends (by decide))
    dsimp only
    rw [startsPunct_treesAt, second, Bool.and_false]
    refine reads_bind (reads_punct '&') fun _ _ => ?_
    refine reads_bind (reads_optionalWord_no (isWord_of_startsOperand starts rfl)) fun _ _ => ?_
    exact reads_bind read fun _ _ => reads_pure rfl
  · refine reads_bind (reads_attributes_none rfl) fun found _ => ?_
    refine reads_upcoming fun position => ?_
    have sign : ([['*'], ['!'], ['-']].any
        (startsPunct · (treesAt position (.mark '*' :: operand.print after)))) = true := by
      rw [List.any_cons, startsPunct_treesAt]
      rfl
    rw [startsPunct_treesAt, sign]
    have operator (rest : List Piece) :
        Reads any (.mark '*' :: rest) (fun _ => True) rest :=
      fun _ _ => ⟨_, _, _, trivial, rfl⟩
    refine reads_bind (operator _) fun _ _ => ?_
    exact reads_bind read fun _ _ => reads_pure rfl

end Operands

section Bodies

variable {g : Grammar} {structs : Bool} {after : List Piece} {operand : Operand} {m : Nat}

/-- A body that is an operand and an operation behind it. -/
theorem reads_body_of_operation {rest : List Piece} (valid : operand.Valid)
    (read : Reads ((Grammar.nested (m + 1)).operand true) (operand.print after) (· = .plain) after)
    (operation : Reads (readOperation (.nested m) .plain true .lowest) after (· = .plain) rest) :
    Reads (Grammar.nested (m + 2)).body (operand.print after) (· = .plain) rest := by
  have starts := startsOperand_print operand after valid
  show Reads (readBody (.nested (m + 1))) _ _ _
  refine reads_bind (reads_skipAttributes (isMark_of_startsOperand starts (by decide)))
    fun _ _ => ?_
  refine reads_bind (reads_block_none starts) ?_
  rintro _ rfl
  refine reads_bind read ?_
  rintro _ rfl
  exact reads_upcoming fun position => operation

/-- A body that is an operand. -/
theorem reads_body (after : List Piece) (valid : operand.Valid)
    (ends : closes true (first? after) = true)
    (read : Reads ((Grammar.nested (m + 1)).operand true) (operand.print after) (· = .plain)
      after) :
    Reads (Grammar.nested (m + 2)).body (operand.print after) (· = .plain) after :=
  reads_body_of_operation valid read (reads_operation_end ends)

theorem reads_arrow (rest : List Piece) :
    Reads (punct ['=', '>']) (.mark '=' :: .mark '>' :: rest) (fun _ => True) rest :=
  fun _ _ => ⟨_, _, _, trivial, rfl⟩

/-- A branch of a choice, up to what stands behind its body. -/
theorem reads_branch {before rest : List Piece} (valid : operand.Valid)
    (hash : isMark '#' (first? before) = false) (bar : isMark '|' (first? before) = false)
    (pattern : Reads (Grammar.nested (m + 2)).pattern before (fun _ => True)
      (.gap [' '] :: .mark '=' :: .mark '>' :: .gap [' '] :: operand.print after))
    (ends : closes true (first? after) = true)
    (read : Reads ((Grammar.nested (m + 1)).operand true) (operand.print after) (· = .plain) after)
    (others : (first? after).isNone = true ∧ rest = after ∨ after = .mark ',' :: rest) :
    Reads (readBranch (.nested (m + 2))) before (fun _ => True) rest := by
  refine reads_bind (reads_skipAttributes hash) fun _ _ => ?_
  refine reads_bind (reads_alternatives_one bar pattern rfl) fun _ _ => ?_
  refine reads_gap (reads_bind (reads_optionalWord_no rfl) ?_)
  rintro _ rfl
  refine reads_bind (reads_arrow _) fun _ _ => ?_
  refine reads_gap (reads_bind (reads_body _ valid ends read) ?_)
  rintro _ rfl
  rcases others with ⟨ended, rfl⟩ | rfl
  · refine reads_bind (reads_atEnd ended) ?_
    rintro _ rfl
    refine reads_bind (reads_optionalPunct_no ?_) fun _ _ => reads_pure trivial
    rw [Option.isNone_iff_eq_none.mp ended]
    rfl
  · refine reads_bind (reads_atEnd rfl) ?_
    rintro _ rfl
    exact reads_punct ','

/-- A choice between a value that is there and none. -/
theorem reads_choice (subject : Expression) (after : List Piece) {name : String}
    {held other : Operand} (named : isIdentifier name = true) (heldValid : held.Valid) (otherValid : other.Valid)
    (subjectRead : ∀ inner, Reads (Grammar.nested (m + 2)).subject
      (subject.print (.gap [' '] :: .group .brace inner :: after)) (fun _ => True)
      (.gap [' '] :: .group .brace inner :: after))
    (heldRead : ∀ rest, Reads ((Grammar.nested (m + 1)).operand true)
      (held.print (.mark ',' :: rest)) (· = .plain) (.mark ',' :: rest))
    (otherRead : Reads ((Grammar.nested (m + 1)).operand true)
      (other.print [.gap [' ']]) (· = .plain) [.gap [' ']]) :
    Reads (readChoice (.nested (m + 2))) ((Expression.choice subject name held other).print after)
      (fun _ => True) after := by
  refine reads_bind (reads_word "match") fun _ _ => ?_
  refine reads_bind (reads_gap (subjectRead _)) fun _ _ => ?_
  refine reads_gap (reads_inside ?_)
  refine reads_bind (reads_innerAttributes_none rfl) fun _ _ => ?_
  refine reads_many_more (.gap [' '] :: .word "None" :: .gap [' '] :: .mark '=' ::
    .mark '>' :: .gap [' '] :: other.print [.gap [' ']]) ?_ ?_ ?_
  · refine reads_bind (reads_atEnd rfl) ?_
    rintro _ rfl
    refine reads_bind (reads_gap (reads_branch heldValid rfl rfl
      (reads_pattern_some (m := m) named _) rfl (heldRead _) (.inr rfl))) fun _ _ => ?_
    exact reads_pure rfl
  · have some := tokens_operand held (.mark ',' :: .gap [' '] :: .word "None" :: .gap [' '] ::
      .mark '=' :: .mark '>' :: .gap [' '] :: other.print [.gap [' ']])
    simp only [tokens] at some ⊢
    omega
  · refine reads_many_more [.gap [' ']] ?_ ?_ (reads_many_done ?_)
    · refine reads_bind (reads_atEnd rfl) ?_
      rintro _ rfl
      refine reads_bind (reads_gap (reads_branch otherValid rfl rfl
        (reads_pattern_name (g := .nested (m + 1)) rfl rfl rfl rfl) rfl otherRead
        (.inl ⟨rfl, rfl⟩))) fun _ _ => ?_
      exact reads_pure rfl
    · simp only [tokens]
      omega
    · refine reads_bind (reads_atEnd rfl) ?_
      rintro _ rfl
      exact Reads.leave_gap (reads_pure (P := (· = false)) rfl)

end Bodies

section Expressions

variable {structs : Bool} {after : List Piece}

/-- How the arguments of calls are read. -/
def ReadsArguments (m : Nat) : Prop :=
  ∀ arguments, AllValid arguments → depthOf arguments ≤ m →
    Reads (commas (Grammar.nested m).expression) (printArguments arguments) (fun _ => True) []

/-- The atom of an operand and what stands behind it are read together with what follows. -/
theorem reads_trailing {m : Nat} (all : ReadsArguments m) {structs : Bool} {rest : List Piece}
    {P : ExpressionForm → Prop} : ∀ (operand : Operand) (after : List Piece), operand.Valid →
    operand.depth ≤ m → follows structs (first? after) = true →
    Reads (readTrailers (.nested m) .plain) after P rest →
    Reads (readAtom (.nested m) structs >>= readTrailers (.nested m)) (operand.print after) P rest
  | .path path, after, valid, deep, behind, others => by
    refine reads_bind (reads_atom_names valid (avoids_of_follows behind)
      (noStruct_of_follows behind)) ?_
    rintro _ rfl
    exact others
  | .text text, after, valid, deep, behind, others => by
    refine reads_bind (reads_atom_text text) ?_
    rintro _ rfl
    exact others
  | .unit, after, valid, deep, behind, others => by
    refine reads_bind reads_atom_unit ?_
    rintro _ rfl
    exact others
  | .call path arguments, after, valid, deep, behind, others => by
    refine reads_bind (reads_atom_names valid.1 rfl (Bool.and_false _)) ?_
    rintro _ rfl
    exact reads_trailers_call (all arguments valid.2 deep) others
  | .associated type trait name, after, valid, deep, behind, others => by
    obtain ⟨m, rfl⟩ := Nat.exists_eq_add_of_le' deep
    refine reads_bind (reads_atom_associated valid.1 valid.2.1 valid.2.2.named [] after) ?_
    rintro _ rfl
    exact reads_trailers_call (reads_commas (separated_done fun _ => rfl)) others
  | .member operand name, after, valid, deep, behind, others =>
    reads_trailing all operand _ valid.1 deep rfl
      (reads_trailers_member valid.2.named (reads_namedMember valid.2.named behind) (Nat.le_refl _)
        others)
  | .method operand blanks name arguments, after, valid, deep, behind, others => by
    have call := reads_trailers_member valid.2.2.1.named
      (reads_namedMember_call valid.2.2.1.named
        (all arguments valid.2.2.2 (Nat.le_trans (Nat.le_max_right _ _) deep)))
      (Nat.le_succ _) others
    exact reads_trailing all operand _ valid.1 (Nat.le_trans (Nat.le_max_left _ _) deep)
      (by rw [first?_lead]; rfl) (reads_lead blanks call)
  | .ask operand, after, valid, deep, behind, others =>
    reads_trailing all operand _ valid deep rfl (reads_trailers_ask others)

/-- An operand that ends. -/
theorem reads_operand {m : Nat} (all : ReadsArguments m) {operand : Operand} (valid : operand.Valid)
    (deep : operand.depth ≤ m) (ends : endsOperand structs (first? after) = true) :
    Reads ((Grammar.nested (m + 1)).operand structs) (operand.print after) (· = .plain) after := by
  refine reads_operand_unsigned nofun (fun c member => ?_)
    (reads_trailing all operand after valid deep (follows_of_endsOperand ends)
      (reads_trailers_end ends))
  have others : ∀ c ∈ ['#', '&', '*', '!', '-'], c ∉ [':', '<'] := forall_mem_of_all (by decide)
  exact isMark_of_startsOperand (startsOperand_print operand after valid) (others c member)

theorem reads_atom_choice {g : Grammar} {rest : List Piece}
    (read : Reads (readChoice g) (.word "match" :: rest) (fun _ => True) after) :
    Reads (readAtom g structs) (.word "match" :: rest) (· = .block) after := by
  have block : Reads (readBlock g) (.word "match" :: rest) (· = true) after := by
    refine reads_upcoming fun position => ?_
    show Reads (readChoice g >>= fun _ => pure true) _ _ _
    exact reads_bind read fun _ _ => reads_pure rfl
  refine reads_upcoming fun position => ?_
  show Reads (readBlock g >>= fun found => if found = true then pure ExpressionForm.block
    else failure) _ _ _
  refine reads_bind block ?_
  rintro _ rfl
  exact reads_pure rfl

/-- How expressions are read. -/
def ReadsExpressions (m : Nat) : Prop :=
  ∀ expression : Expression, expression.Valid → expression.depth ≤ m →
    ∀ structs after, closes structs (first? after) = true →
      Reads ((Grammar.nested m).expressionWith structs) (expression.print after) (fun _ => True)
        after

/-- Arguments are read if expressions are. -/
theorem ReadsExpressions.arguments {m : Nat} (all : ReadsExpressions m) : ReadsArguments m := by
  intro arguments valid deep
  refine reads_commas fun values => ?_
  induction arguments generalizing values with
  | nil => exact separated_done (fun _ => rfl) values
  | cons argument others ih =>
    have rest := ih valid.2 (Nat.le_trans (Nat.le_max_right _ _) deep)
    have first (after : List Piece) (ends : closes true (first? after) = true) :
        Reads (Grammar.nested m).expression (argument.print after) (fun _ => True) after :=
      reads_bind (all argument valid.1 (Nat.le_trans (Nat.le_max_left _ _) deep) true after ends)
        fun _ _ => reads_pure trivial
    cases others with
    | nil =>
      exact separated_last (isEmpty_expression argument) (first [] rfl) (fun _ => rfl) values
    | cons next others =>
      refine separated_more (isEmpty_expression argument) (first _ rfl) (fun _ => rfl)
        (Reads.leave_gap (reads_punct ',')) ?_ rest values
      have some := tokens_expression argument (printOthers (next :: others))
      simp only [printArguments, printOthers, tokens] at some ⊢
      omega

/-- The operand of an expression is read up to what it leaves. -/
theorem reads_expression_operand {m : Nat} (arguments : ∀ k < m, ReadsArguments k)
    (subjects : ∀ k < m, ReadsExpressions k) {expression : Expression} (valid : expression.Valid)
    (deep : expression.depth ≤ m) (ends : closes structs (first? after) = true) :
    Reads ((Grammar.nested m).operand structs) (expression.print after) (· ≠ .range)
      (expression.tail after) := by
  have ended := endsOperand_of_closes ends
  have plain : ∀ form : ExpressionForm, form = .plain → form ≠ .range := by
    rintro _ rfl
    exact nofun
  cases expression with
  | operand operand =>
    obtain ⟨m, rfl⟩ := Nat.exists_eq_add_of_le' (Nat.le_trans (Nat.le_add_left 1 _) deep)
    exact (reads_operand (arguments m (Nat.lt_succ_self m)) valid (Nat.le_of_succ_le_succ deep)
      ended).imp plain
  | signed sign operand =>
    obtain ⟨m, rfl⟩ := Nat.exists_eq_add_of_le' (Nat.le_trans (Nat.le_add_left 2 _) deep)
    have inner := reads_operand (arguments m (by omega)) valid.2
      (Nat.le_of_add_le_add_right deep) ended
    exact (reads_operand_signed valid.1 valid.2 ended inner).imp plain
  | cast operand type =>
    obtain ⟨m, rfl⟩ := Nat.exists_eq_add_of_le' (Nat.le_trans (Nat.le_add_left 2 _) deep)
    exact (reads_operand (m := m + 1) (arguments (m + 1) (Nat.lt_succ_self _)) valid.1
      (Nat.le_succ_of_le (Nat.le_of_add_le_add_right deep)) rfl).imp plain
  | choice subject name held other =>
    obtain ⟨subjectValid, field, heldValid, otherValid⟩ := valid
    simp only [Expression.depth, Nat.max_le] at deep
    obtain ⟨subjectDeep, heldDeep, otherDeep⟩ := deep
    obtain ⟨m, rfl⟩ := Nat.exists_eq_add_of_le' (Nat.le_trans (Nat.le_add_left 3 _) heldDeep)
    have choice := reads_choice subject after field.named heldValid otherValid
      (fun inner => reads_bind (subjects (m + 2) (by omega) subject subjectValid (by omega) false _
        rfl) fun _ _ => reads_pure trivial)
      (fun rest => reads_operand (arguments m (by omega)) heldValid (by omega) rfl)
      (reads_operand (arguments m (by omega)) otherValid (by omega) rfl)
    have atom : Reads (readAtom (.nested (m + 2)) structs >>= readTrailers (.nested (m + 2)))
        ((Expression.choice subject name held other).print after) (· = .block) after := by
      refine reads_bind (reads_atom_choice choice) ?_
      rintro _ rfl
      exact reads_trailers_end ended
    have read := reads_operand_unsigned (by decide) (fun c _ => rfl) atom
    refine read.imp ?_
    rintro _ rfl
    exact nofun

/-- Behind its operand an expression is read to its end. -/
theorem reads_operation_tail {m : Nat} (expression : Expression) {base : Rank}
    {form : ExpressionForm} (low : base = .lowest ∨ base = .cast) (closed : form ≠ .range)
    (valid : expression.Valid) (deep : expression.depth ≤ m)
    (ends : closes structs (first? after) = true) :
    Reads ((Grammar.nested m).operation form structs base) (expression.tail after) (fun _ => True)
      after := by
  have some : 1 ≤ expression.depth := by
    cases expression <;> simp only [Expression.depth] <;> omega
  obtain ⟨m, rfl⟩ := Nat.exists_eq_add_of_le' (Nat.le_trans some deep)
  cases expression with
  | cast operand type =>
    obtain ⟨m, rfl⟩ := Nat.exists_eq_add_of_le'
      (Nat.le_trans (Nat.le_add_left 1 _) (Nat.le_of_succ_le_succ deep))
    exact reads_operation_cast low closed valid.2 ends
  | _ => exact (reads_operation_end (g := .nested m) ends).imp fun _ _ => trivial

/-- Every expression is read from its pieces, by every grammar that is deep enough for it. -/
theorem reads_expressions (m : Nat) : ReadsExpressions m := by
  induction m using Nat.strongRecOn with
  | ind m ih =>
    intro expression valid deep structs after ends
    refine reads_bind (reads_expression_operand (fun k less => (ih k less).arguments) ih valid deep
      ends) fun form closed => ?_
    exact reads_operation_tail _ (.inl rfl) closed valid deep ends

end Expressions

end EntityTables.Source
