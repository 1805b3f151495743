/-
# EntityTables.Proofs.Source.Operands — what is read of operands

An operand is an atom with trailers behind it. Each kind of atom and each kind of trailer is read
from its pieces, and nothing more is read where what follows is no part of it.

* `closes`, `endsOperand`, `follows` — what may stand behind.
* `reads_trailers_end`, `reads_trailers_member` and so on — trailers; `reads_operation_end`,
  `reads_operation_cast` — operations.
* `reads_atom_names`, `reads_atom_associated` and so on — atoms.
-/
import EntityTables.Proofs.Source.Expressions

namespace EntityTables.Source

set_option autoImplicit false

open Reading

/-! ## What may stand behind -/

/-- Whether no operator and no trailer comes first: an expression ends. -/
def closes (structs : Bool) : Option Piece → Bool
  | none => true
  | some (.mark c) => c == ',' || c == ';'
  | some (.group .brace _) => !structs
  | _ => false

/-- Whether no trailer comes first: an operand ends. -/
def endsOperand (structs : Bool) (piece? : Option Piece) : Bool :=
  closes structs piece? || isMark '=' piece? || isWord "as" piece?

/-- Whether nothing comes first that would be a part of a path or a member before it. -/
def follows (structs : Bool) : Option Piece → Bool
  | some (.mark c) => !([':', '<', '!', '#'].contains c)
  | some (.group .brace _) => !structs
  | some (.group .paren _) => false
  | _ => true

section Behind

variable {structs : Bool} {piece? : Option Piece}

theorem endsOperand_of_closes (ends : closes structs piece? = true) :
    endsOperand structs piece? = true := by
  rw [endsOperand, ends, Bool.true_or, Bool.true_or]

/-- What ends an operand: what ends an expression, an assignment or a conversion. -/
theorem endsOperand_cases (ends : endsOperand structs piece? = true) :
    closes structs piece? = true ∨ piece? = some (.mark '=') ∨ piece? = some (.word "as") := by
  rcases Bool.or_eq_true_iff.mp ends with either | word
  · rcases Bool.or_eq_true_iff.mp either with closed | mark
    · exact .inl closed
    · unfold isMark at mark
      split at mark
      · exact .inr (.inl (by rw [beq_iff_eq.mp mark]))
      · cases mark
  · unfold isWord at word
    split at word
    · exact .inr (.inr (by rw [beq_iff_eq.mp word]))
    · cases word

theorem follows_of_closes (ends : closes structs piece? = true) :
    follows structs piece? = true := by
  unfold closes at ends
  split at ends
  · rfl
  · next c =>
    rcases Bool.or_eq_true_iff.mp ends with comma | semicolon
    · rw [beq_iff_eq.mp comma]
      rfl
    · rw [beq_iff_eq.mp semicolon]
      rfl
  · exact ends
  · cases ends

theorem follows_of_endsOperand (ends : endsOperand structs piece? = true) :
    follows structs piece? = true := by
  rcases endsOperand_cases ends with closed | rfl | rfl
  · exact follows_of_closes closed
  · rfl
  · rfl

theorem avoids_of_follows (behind : follows structs piece? = true) :
    avoids [':', '<', '!', '#'] piece? = true := by
  unfold follows at behind
  unfold avoids
  split at behind <;> simp_all

theorem isMark_of_closes (ends : closes structs piece? = true) {c : Char}
    (other : c ∉ [',', ';']) : isMark c piece? = false := by
  unfold closes at ends
  split at ends
  · rfl
  · refine beq_false_of_ne ?_
    rintro rfl
    simp_all
  · rfl
  · cases ends

theorem isWord_of_closes (ends : closes structs piece? = true) (name : String) :
    isWord name piece? = false := by
  unfold closes at ends
  split at ends <;> first | rfl | cases ends

theorem isGroup_of_closes (ends : closes structs piece? = true) {delimiter : Delimiter}
    (other : delimiter ≠ .brace) : isGroup delimiter piece? = false := by
  unfold closes at ends
  split at ends
  · rfl
  · rfl
  · exact beq_false_of_ne other.symm
  · cases ends

theorem isMark_of_endsOperand (ends : endsOperand structs piece? = true) {c : Char}
    (other : c ∉ [',', ';', '=']) : isMark c piece? = false := by
  simp only [List.mem_cons, List.not_mem_nil, or_false, not_or] at other
  rcases endsOperand_cases ends with closed | rfl | rfl
  · exact isMark_of_closes closed (by simp [other])
  · exact beq_false_of_ne other.2.2
  · rfl

theorem isWord_of_endsOperand (ends : endsOperand structs piece? = true) {name : String}
    (other : name ≠ "as") : isWord name piece? = false := by
  rcases endsOperand_cases ends with closed | rfl | rfl
  · exact isWord_of_closes closed name
  · rfl
  · exact beq_false_of_ne other.symm

theorem isGroup_of_endsOperand (ends : endsOperand structs piece? = true) {delimiter : Delimiter}
    (other : delimiter ≠ .brace) : isGroup delimiter piece? = false := by
  rcases endsOperand_cases ends with closed | rfl | rfl
  · exact isGroup_of_closes closed other
  · rfl
  · rfl

theorem isGroup_of_follows (behind : follows structs piece? = true) :
    isGroup .paren piece? = false := by
  unfold follows at behind
  split at behind
  · rfl
  · rfl
  · cases behind
  · next other =>
    unfold isGroup
    split
    · refine beq_false_of_ne ?_
      rintro rfl
      exact other _ rfl
    · rfl

theorem noStruct_of_follows (behind : follows structs piece? = true) :
    (structs && isGroup .brace piece?) = false := by
  unfold follows at behind
  split at behind
  · exact Bool.and_false structs
  · cases structs <;> simp_all
  · cases behind
  · next other _ =>
    refine (Bool.and_eq_false_iff.mpr (.inr ?_))
    unfold isGroup
    split
    · refine beq_false_of_ne ?_
      rintro rfl
      exact other _ rfl
    · rfl

end Behind

/-! ## Trailers and operations -/

section Trailers

variable {g : Grammar} {structs : Bool} {before after rest : List Piece} {P : ExpressionForm → Prop}

/-- The step that `readTrailers` repeats. -/
def trailerStep (g : Grammar) (form : ExpressionForm) :
    Reading (ExpressionForm ⊕ ExpressionForm) := do
  let trees ← upcoming
  if startsGroup .paren trees then
    readArgumentList g
    return .inl .plain
  else if startsDot trees && form != .range then
    punct ['.']
    readMemberAccess g
    return .inl .plain
  else if startsGroup .bracket trees then
    inside .bracket g.expression
    return .inl .plain
  else if startsPunct ['?'] trees && form != .range then
    punct ['?']
    return .inl .plain
  else return .inr form

/-- Behind an operand that ends stand no trailers. -/
theorem reads_trailers_end {form : ExpressionForm}
    (ends : endsOperand structs (first? after) = true) :
    Reads (readTrailers g form) after (· = form) after := by
  refine reads_repeated_done (trailerStep g) (reads_upcoming fun position => ?_)
  have dot : startsDot (treesAt position after) = false := by
    rw [startsDot, startsPunct_treesAt, isMark_of_endsOperand ends (by decide), Bool.false_and]
  rw [startsGroup_treesAt, isGroup_of_endsOperand ends (by decide), dot, startsGroup_treesAt,
    isGroup_of_endsOperand ends (by decide), startsPunct_treesAt,
    isMark_of_endsOperand ends (by decide)]
  exact reads_pure ⟨form, rfl, rfl⟩

theorem reads_argumentList {inner : List Piece}
    (read : Reads (commas g.expression) inner (fun _ => True) []) :
    Reads (readArgumentList g) (.group .paren inner :: after) (fun _ => True) after :=
  reads_bind (reads_inside read) fun _ _ => reads_pure trivial

/-- A call, and what stands behind it. -/
theorem reads_trailers_call {inner : List Piece}
    (read : Reads (commas g.expression) inner (fun _ => True) [])
    (others : Reads (readTrailers g .plain) after P rest) :
    Reads (readTrailers g .plain) (.group .paren inner :: after) P rest := by
  refine reads_repeated_more (trailerStep g) after (S := (· = .plain))
    (reads_upcoming fun position => ?_) (Nat.lt_succ_self _) ?_
  · show Reads (readArgumentList g >>= _) _ _ _
    exact reads_bind (reads_argumentList read) fun _ _ => reads_pure ⟨_, rfl, rfl⟩
  · rintro _ rfl
    exact others

/-- A question mark, and what stands behind it. -/
theorem reads_trailers_ask (others : Reads (readTrailers g .plain) after P rest) :
    Reads (readTrailers g .plain) (.mark '?' :: after) P rest := by
  refine reads_repeated_more (trailerStep g) after (S := (· = .plain))
    (reads_upcoming fun position => ?_) (Nat.lt_succ_self _) ?_
  · show Reads (punct ['?'] >>= _) _ _ _
    exact reads_bind (reads_punct '?') fun _ _ => reads_pure ⟨_, rfl, rfl⟩
  · rintro _ rfl
    exact others

/-- A member's name, perhaps with what it is given, and what stands behind it. -/
theorem reads_trailers_member {name : String} {behind : List Piece} (field : isIdentifier name = true)
    (access : Reads (readNamedMember g) (.word name :: behind) (fun _ => True) after)
    (fewer : tokens after ≤ tokens behind)
    (others : Reads (readTrailers g .plain) after P rest) :
    Reads (readTrailers g .plain) (.mark '.' :: .word name :: behind) P rest := by
  refine reads_repeated_more (trailerStep g) after (S := (· = .plain))
    (reads_upcoming fun position => ?_) (by simp only [tokens]; omega) ?_
  · show Reads (punct ['.'] >>= fun _ => readMemberAccess g >>= _) _ _ _
    refine reads_bind (reads_punct '.') fun _ _ => reads_bind (P := fun _ => True) ?_ fun _ _ =>
      reads_pure ⟨_, rfl, rfl⟩
    refine reads_upcoming fun position => ?_
    have noWait : isWord "await" (first? (.word name :: behind)) = false :=
      beq_of_isIdentifier field rfl
    show Reads (optionalWord "await" >>= fun waits => if (!waits) = true then _ else _) _ _ _
    refine reads_bind (reads_optionalWord_no noWait) ?_
    rintro _ rfl
    exact access
  · rintro _ rfl
    exact others

theorem reads_namedMember {name : String} (field : isIdentifier name = true)
    (behind : follows structs (first? after) = true) :
    Reads (readNamedMember g) (.word name :: after) (fun _ => True) after := by
  refine reads_bind (reads_identifier field) fun _ _ => ?_
  refine reads_bind (reads_ahead _ fun position =>
    startsPunct_of_isMark position after (isMark_of_avoids (avoids_of_follows behind) (by decide)) _) ?_
  rintro _ rfl
  refine reads_bind (reads_ahead _ fun position =>
    (startsGroup_treesAt position after .paren).trans (isGroup_of_follows behind)) ?_
  rintro _ rfl
  exact reads_pure trivial

theorem reads_namedMember_call {name : String} {inner : List Piece}
    (field : isIdentifier name = true)
    (read : Reads (commas g.expression) inner (fun _ => True) []) :
    Reads (readNamedMember g) (.word name :: .group .paren inner :: after) (fun _ => True)
      after := by
  refine reads_bind (reads_identifier field) fun _ _ => ?_
  refine reads_bind (reads_ahead false fun _ => rfl) ?_
  rintro _ rfl
  refine reads_bind (reads_ahead true fun _ => rfl) ?_
  rintro _ rfl
  exact reads_argumentList read

/-- The step that `readOperation` repeats. -/
def operationStep (g : Grammar) (structs : Bool) (base : Rank) (form : ExpressionForm) :
    Reading (ExpressionForm ⊕ ExpressionForm) := do
  let trees ← upcoming
  if form == .range then return .inr form
  match operator? trees with
  | some (operator, rank) =>
    if rank.level < base.level then return .inr form
    require fun _ => !(rank == .comparison && form == .comparison)
    punct operator
    readRightOperand g structs rank
    return .inl (if rank == .comparison then .comparison else .plain)
  | none =>
    if base.level ≤ Rank.assignment.level && startsAssignment trees then
      punct ['=']
      readRightOperand g structs .assignment
      return .inl .plain
    else if base.level ≤ Rank.range.level && startsPunct ['.', '.'] trees then
      readRangeEnd g structs
      return .inl .range
    else if base.level ≤ Rank.cast.level && startsWord "as" trees then
      word "as"
      g.closedType
      require (!startsTrailer ·)
      return .inl .plain
    else return .inr form

/-- Where no operator's first character stands, there is none. -/
theorem operator?_treesAt (position : Position)
    (avoid : ∀ operator ∈ binaryOperators, ∀ c ∈ operator.1.head?, isMark c (first? after) = false) :
    operator? (treesAt position after) = none := by
  rw [operator?, List.find?_eq_none]
  have some : ∀ operator ∈ binaryOperators, operator.1 ≠ [] := by decide
  rintro ⟨operator, rank⟩ member found
  cases operator with
  | nil => exact some _ member rfl
  | cons c more =>
    rw [startsPunct_of_isMark position after (avoid _ member c rfl) more] at found
    cases found

theorem operator?_of_closes (ends : closes structs (first? after) = true) (position : Position) :
    operator? (treesAt position after) = none := by
  have others : (binaryOperators.all fun operator =>
      operator.1.head?.all fun c => !([',', ';'].contains c)) = true := by decide
  refine operator?_treesAt position fun operator member c head => isMark_of_closes ends ?_
  have apart := List.all_eq_true.mp others operator member
  rw [Option.mem_def.mp head] at apart
  simpa using apart

/-- Behind an expression that ends stands no operation. -/
theorem reads_operation_end {form : ExpressionForm} {base : Rank}
    (ends : closes structs (first? after) = true) :
    Reads (readOperation g form structs base) after (· = form) after := by
  refine reads_repeated_done (operationStep g structs base)
    (reads_upcoming fun position => ?_)
  have assignment : startsAssignment (treesAt position after) = false := by
    rw [startsAssignment, startsPunct_treesAt, isMark_of_closes ends (by decide), Bool.false_and]
  rw [operator?_of_closes ends, assignment,
    startsPunct_of_isMark position after (isMark_of_closes ends (by decide)), startsWord_treesAt,
    isWord_of_closes ends]
  simp only [Bool.and_false]
  split
  · exact reads_pure ⟨form, rfl, rfl⟩
  · exact reads_pure ⟨form, rfl, rfl⟩

/-- Behind an operand a conversion. -/
theorem reads_operation_cast {type : Names} {base : Rank} {form : ExpressionForm} {m : Nat}
    (low : base = .lowest ∨ base = .cast) (whole : form ≠ .range) (valid : type.Valid)
    (ends : closes structs (first? after) = true) :
    Reads (readOperation (.nested (m + 1)) form structs base)
      (.gap [' '] :: .word "as" :: .gap [' '] :: type.print after) (fun _ => True) after := by
  have ended := endsOperand_of_closes ends
  have avoid : avoids [':', '<', '!', '+', '#'] (first? after) = true := by
    unfold closes at ends
    unfold avoids
    split at ends <;> simp_all
    rcases ends with rfl | rfl <;> decide
  refine reads_repeated_more (operationStep (.nested (m + 1)) structs base) after
    (S := fun _ => True) (reads_upcoming fun position => ?_) ?_ fun next _ => ?_
  · have closed : (form == .range) = false := beq_false_of_ne whole
    rw [closed]
    have trailer : ∀ position, startsTrailer (treesAt position after) = false := by
      intro position
      rw [startsTrailer, startsDot, startsPunct_treesAt, startsPunct_treesAt,
        isMark_of_endsOperand ended (by decide), isMark_of_endsOperand ended (by decide),
        startsGroup_treesAt, startsGroup_treesAt, isGroup_of_endsOperand ended (by decide),
        isGroup_of_endsOperand ended (by decide)]
      rfl
    have conversion : Reads (do
        word "as"
        (Grammar.nested (m + 1)).closedType
        require (!startsTrailer ·)
        return (.inl .plain : ExpressionForm ⊕ ExpressionForm))
        (.gap [' '] :: .word "as" :: .gap [' '] :: type.print after)
        (fun found => ∃ next, found = .inl next ∧ True) after := by
      refine reads_gap (reads_bind (reads_word "as") fun _ _ => reads_gap ?_)
      refine reads_bind (reads_closedType valid avoid) fun _ _ => ?_
      refine reads_bind (reads_require fun position => ?_) fun _ _ => reads_pure ⟨_, rfl, trivial⟩
      rw [trailer]
      rfl
    rcases low with rfl | rfl <;> exact conversion
  · have some := tokens_path type after
    simp only [tokens]
    omega
  · exact (reads_operation_end ends).imp fun _ _ => trivial

end Trailers

/-! ## Atoms -/

section Atoms

variable {g : Grammar} {structs : Bool} {before after : List Piece} {P : ExpressionForm → Prop}

/-- No attribute comes before what does not begin with a hash. -/
theorem reads_attributes_none (hash : isMark '#' (first? before) = false) :
    Reads (attributes g) before (· = []) before := by
  refine reads_repeated_done _ (reads_bind (reads_optionalPunct_no hash) ?_)
  rintro _ rfl
  exact reads_pure ⟨[], rfl, rfl⟩

theorem reads_skipAttributes (hash : isMark '#' (first? before) = false) :
    Reads (skipAttributes g) before (fun _ => True) before :=
  reads_bind (reads_attributes_none hash) fun _ _ => reads_pure trivial

/-- No attribute about the whole of a group comes first either. -/
theorem reads_innerAttributes_none (hash : isMark '#' (first? before) = false) :
    Reads (innerAttributes g) before (fun _ => True) before := by
  refine reads_many_done (reads_bind (reads_ahead false fun position => ?_) ?_)
  · rw [startsPunct_treesAt, hash, Bool.false_and]
  · rintro _ rfl
    exact reads_pure rfl

/-- What begins like a path and like no other expression is read as one. -/
theorem reads_atom_path (starts : startsOperand (first? before) = true)
    (path : ∀ position, startsExpressionPath (treesAt position before) = true)
    (builtin : ∀ position, startsBuiltin (treesAt position before) = false)
    (literal : ∀ position, startsLiteral (treesAt position before) = false)
    (read : Reads (readPathExpression g structs) before P after) :
    Reads (readAtom g structs) before P after := by
  have noWord (position : Position) (keyword : String) (other : isName keyword = false) :
      startsWord keyword (treesAt position before) = false :=
    (startsWord_treesAt position before keyword).trans (isWord_of_startsOperand starts other)
  refine reads_upcoming fun position => ?_
  have async : startsAsyncBlock (treesAt position before) = false := by
    rw [startsAsyncBlock, noWord position "async" rfl, Bool.false_and]
  have tries : startsTryBlock (treesAt position before) = false := by
    rw [startsTryBlock, noWord position "try" rfl, Bool.false_and]
  have closure : startsClosure (treesAt position before) = false := by
    simp [startsClosure, startsOneOf, noWord position "move" rfl, noWord position "static" rfl,
      noWord position "for" rfl, noWord position "const" rfl, noWord position "async" rfl,
      startsPunct_treesAt, isMark_of_startsOperand starts (c := '|') (by decide)]
  rw [literal, async, tries, closure, builtin, path]
  exact read

theorem startsLiteral_path {path : Names} (valid : path.Valid) (position : Position) :
    startsLiteral (treesAt position (path.print after)) = false := by
  obtain ⟨absolute, first, more⟩ := path
  cases absolute with
  | true => rfl
  | false =>
    have named : isName first = true := valid.named first List.mem_cons_self
    show (first == "true" || first == "false") = false
    rw [beq_of_isName named rfl, beq_of_isName named rfl]
    rfl

/-- A path, wherever what follows makes it neither longer nor an invocation nor a struct. -/
theorem reads_atom_names {path : Names} (valid : path.Valid)
    (avoid : avoids [':', '<', '!', '#'] (first? after) = true)
    (struct : (structs && isGroup .brace (first? after)) = false) :
    Reads (readAtom g structs) (path.print after) (· = .plain) after := by
  refine reads_atom_path (first?_operand_path valid)
    (fun position => by rw [startsExpressionPath, startsPath_path valid, Bool.true_or,
      Bool.true_or])
    (startsBuiltin_path path (isMark_of_avoids avoid (by decide))) (startsLiteral_path valid) ?_
  refine reads_bind (reads_path valid (isMark_of_avoids avoid (by decide))
    (isMark_of_avoids avoid (by decide))) ?_
  rintro _ rfl
  refine reads_upcoming fun position => ?_
  have bang : startsBang (treesAt position after) = false := by
    rw [startsBang, startsPunct_treesAt, isMark_of_avoids avoid (by decide), Bool.false_and]
  rw [bang, Bool.and_false, startsGroup_treesAt, struct]
  exact reads_pure rfl

theorem reads_atom_text (text : String) :
    Reads (readAtom g structs) (.quoted text :: after) (· = .plain) after :=
  fun _ _ => ⟨_, _, _, rfl, rfl⟩

theorem reads_atom_unit :
    Reads (readAtom g structs) (.group .paren [] :: after) (· = .plain) after :=
  fun _ _ => ⟨_, _, _, rfl, rfl⟩

/-- A trait's name for something of a type: the type and the trait in angle brackets. -/
theorem reads_atom_associated {type trait : Names} {name : String} {m : Nat} (valid : type.Valid)
    (traitValid : trait.Valid) (field : isIdentifier name = true) (inner rest : List Piece) :
    Reads (readAtom (.nested (m + 1)) structs)
      (.mark '<' :: type.print (.gap [' '] :: .word "as" :: .gap [' '] :: trait.print
        (.mark '>' :: .mark ':' :: .mark ':' :: .word name :: .group .paren inner :: rest)))
      (· = .plain) (.group .paren inner :: rest) := by
  have qualifier : Reads (readQualifier (.nested (m + 1)))
      (.mark '<' :: type.print (.gap [' '] :: .word "as" :: .gap [' '] :: trait.print
        (.mark '>' :: .mark ':' :: .mark ':' :: .word name :: .group .paren inner :: rest)))
      (fun _ => True) (.word name :: .group .paren inner :: rest) := by
    refine reads_bind (reads_punct '<') fun _ _ => ?_
    refine reads_bind (reads_typeText valid rfl) fun _ _ => ?_
    refine reads_gap (reads_bind (reads_optionalWord_yes "as") ?_)
    rintro _ rfl
    refine reads_bind (reads_gap (reads_simplePath traitValid rfl rfl)) fun _ _ => ?_
    exact reads_bind (reads_punct '>') fun _ _ => reads_colons _
  have only : ∀ word ∈ [name], isName word = true :=
    List.forall_mem_singleton.mpr (isName_of_isIdentifier field)
  have path : Reads (readPath (.nested (m + 1)) true)
      (.mark '<' :: type.print (.gap [' '] :: .word "as" :: .gap [' '] :: trait.print
        (.mark '>' :: .mark ':' :: .mark ':' :: .word name :: .group .paren inner :: rest)))
      (fun path => path.isPlainPath = false) (.group .paren inner :: rest) := by
    refine reads_bind (reads_ahead true fun position => startsPunct_treesAt _ _ _) ?_
    rintro _ rfl
    refine reads_bind (reads_spelled qualifier) fun text _ => ?_
    exact reads_bind (reads_segments name [] only (fun _ _ _ => rfl) (fun _ => rfl) rfl rfl)
      fun _ _ => reads_pure rfl
  refine reads_atom_path rfl (fun position => ?_) (fun _ => rfl) (fun _ => rfl) ?_
  · rw [startsExpressionPath, startsPunct_treesAt position _ '<']
    simp [first?, isMark]
  · refine reads_bind path fun path qualified => reads_upcoming fun position => ?_
    have noStruct : startsGroup .brace (treesAt position (.group .paren inner :: rest)) = false :=
      rfl
    rw [qualified, Bool.false_and, noStruct, Bool.and_false]
    exact reads_pure rfl

/-! ## Blocks -/

/-- What begins an operand begins no block. -/
theorem reads_block_none (starts : startsOperand (first? before) = true) :
    Reads (readBlock g) before (· = false) before := by
  have noWord (position : Position) (keyword : String) (other : isName keyword = false) :
      startsWord keyword (treesAt position before) = false :=
    (startsWord_treesAt position before keyword).trans (isWord_of_startsOperand starts other)
  refine reads_upcoming fun position => ?_
  have loop : startsOneOf ["while", "loop"] (treesAt position before) = false := by
    simp [startsOneOf, noWord position "while" rfl, noWord position "loop" rfl]
  have brace : startsGroup .brace (treesAt position before) = false := by
    rw [startsGroup_treesAt]
    generalize first? before = piece? at starts
    unfold startsOperand at starts
    split at starts <;> first | rfl | cases starts
  have lifetime : startsLifetime (treesAt position before) = false := by
    rw [startsLifetime_treesAt]
    generalize first? before = piece? at starts
    unfold startsOperand at starts
    split at starts <;> first | rfl | cases starts
  rw [noWord position "if" rfl, loop, noWord position "for" rfl, noWord position "match" rfl,
    startsTryBlock, noWord position "try" rfl, noWord position "unsafe" rfl,
    noWord position "const" rfl, brace, lifetime]
  exact reads_pure rfl

end Atoms

end EntityTables.Source
