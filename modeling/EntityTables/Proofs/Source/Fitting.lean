/-
# EntityTables.Proofs.Source.Fitting — printed pieces keep apart

No piece of an expression, a statement or a function is taken for a part of its neighbour, if the
names are words. What is printed behind decides about the last piece, so each lemma assumes that
nothing tight comes there.

* `fit_operand`, `fit_expression` — by induction on the trees.
* `fit_body`, `fit_implementation` — bodies and implementations.
-/
import EntityTables.Proofs.Source.Functions

namespace EntityTables.Source

set_option autoImplicit false

section Fitting

variable {after : List Piece}

theorem fit_cons {piece : Piece} (fits : piece.Fits) (apart : piece.isApart after = true)
    (fit : Fit after) : Fit (piece :: after) := by
  rw [Fit]
  exact ⟨fits, apart, fit⟩

theorem fit_gap {blanks : List Char} (some : blanks ≠ []) (gaps : ∀ c ∈ blanks, isGap c = true)
    (fit : Fit after) : Fit (.gap blanks :: after) :=
  fit_cons (by rw [Piece.Fits]; exact ⟨some, gaps⟩) rfl fit

theorem fit_space (fit : Fit after) : Fit (.gap [' '] :: after) :=
  fit_gap nofun (forall_mem_of_all (by decide)) fit

theorem fit_word {text : String} (isWord : IsWord text) (loose : beginsTight after = false)
    (fit : Fit after) : Fit (.word text :: after) :=
  fit_cons (by rw [Piece.Fits]; exact isWord) (by rw [Piece.isApart, loose]; rfl) fit

theorem fit_mark {c : Char} (mark : c ∈ punctuation ∧ c ≠ '/') (fit : Fit after) :
    Fit (.mark c :: after) :=
  fit_cons (by rw [Piece.Fits]; exact mark) rfl fit

theorem fit_quoted (text : String) (loose : beginsTight after = false) (fit : Fit after) :
    Fit (.quoted text :: after) :=
  fit_cons (by rw [Piece.Fits]; trivial) (by rw [Piece.isApart, loose]; rfl) fit

theorem fit_group (delimiter : Delimiter) {inner : List Piece} (held : Fit inner)
    (fit : Fit after) : Fit (.group delimiter inner :: after) :=
  fit_cons (by rw [Piece.Fits]; exact held) rfl fit

theorem fit_nil : Fit [] := by
  rw [Fit]
  trivial

theorem fit_printMore {more : List String} (words : ∀ name ∈ more, IsWord name)
    (loose : beginsTight after = false) (fit : Fit after) :
    Fit (printMore more after) ∧ beginsTight (printMore more after) = false := by
  induction more with
  | nil => exact ⟨fit, loose⟩
  | cons name more ih =>
    obtain ⟨rest, apart⟩ := ih fun other member => words other (.tail _ member)
    refine ⟨fit_mark (by decide) (fit_mark (by decide) ?_), rfl⟩
    exact fit_word (words name List.mem_cons_self) apart rest

theorem fit_path {path : Names} (valid : path.Valid) (loose : beginsTight after = false)
    (fit : Fit after) : Fit (path.print after) := by
  obtain ⟨absolute, first, more⟩ := path
  obtain ⟨rest, apart⟩ :=
    fit_printMore (fun name member => valid.words name (.tail _ member)) loose fit
  have named := fit_word (valid.words first List.mem_cons_self) apart rest
  cases absolute with
  | true => exact fit_mark (by decide) (fit_mark (by decide) named)
  | false => exact named

theorem fit_lead {blanks : List Char} (gaps : ∀ c ∈ blanks, isGap c = true) (fit : Fit after)
    (loose : beginsTight after = false) :
    Fit (lead blanks after) ∧ beginsTight (lead blanks after) = false := by
  cases blanks with
  | nil => exact ⟨fit, loose⟩
  | cons c blanks => exact ⟨fit_gap nofun gaps fit, rfl⟩

mutual
theorem fit_operand : ∀ (operand : Operand) {after : List Piece}, operand.Valid →
    beginsTight after = false → Fit after → Fit (operand.print after)
  | .path _, _, valid, loose, fit => fit_path valid loose fit
  | .text text, _, _, loose, fit => fit_quoted text loose fit
  | .unit, _, _, _, fit => fit_group .paren fit_nil fit
  | .call _ arguments, _, valid, _, fit =>
    fit_path valid.1 rfl (fit_group .paren (fit_arguments arguments valid.2) fit)
  | .associated _ _ _, _, valid, _, fit =>
    fit_mark (by decide) (fit_path valid.1 rfl (fit_space (fit_word (by decide) rfl (fit_space
      (fit_path valid.2.1 rfl (fit_mark (by decide) (fit_mark (by decide) (fit_mark (by decide)
        (fit_word valid.2.2.word rfl (fit_group .paren fit_nil fit))))))))))
  | .member operand _, _, valid, loose, fit =>
    fit_operand operand valid.1 rfl (fit_mark (by decide) (fit_word valid.2.word loose fit))
  | .method operand _ _ arguments, _, valid, _, fit =>
    have ⟨rest, apart⟩ := fit_lead valid.2.1 (fit_mark (by decide) (fit_word valid.2.2.1.word rfl
      (fit_group .paren (fit_arguments arguments valid.2.2.2) fit))) rfl
    fit_operand operand valid.1 apart rest
  | .ask operand, _, valid, _, fit => fit_operand operand valid rfl (fit_mark (by decide) fit)

theorem fit_expression : ∀ (expression : Expression) {after : List Piece}, expression.Valid →
    beginsTight after = false → Fit after → Fit (expression.print after)
  | .operand operand, _, valid, loose, fit => fit_operand operand valid loose fit
  | .signed _ operand, _, valid, loose, fit =>
    fit_mark (by rcases valid.1 with rfl | rfl <;> decide) (fit_operand operand valid.2 loose fit)
  | .cast operand _, _, valid, loose, fit =>
    fit_operand operand valid.1 rfl (fit_space (fit_word (by decide) rfl (fit_space
      (fit_path valid.2 loose fit))))
  | .choice subject _ held other, _, valid, _, fit =>
    have last := fit_operand other valid.2.2.2 rfl (fit_space fit_nil)
    have arrow := fit_mark (c := '=') (by decide) (fit_mark (c := '>') (by decide) (fit_space last))
    have none := fit_space (fit_word (by decide : IsWord "None") rfl (fit_space arrow))
    have some := fit_space (fit_operand held valid.2.2.1 rfl (fit_mark (c := ',') (by decide) none))
    have name := fit_group .paren (fit_word valid.2.1.word rfl fit_nil) (fit_space
      (fit_mark (c := '=') (by decide) (fit_mark (c := '>') (by decide) some)))
    fit_word (by decide) rfl (fit_space (fit_expression subject valid.1 rfl (fit_space
      (fit_group .brace (fit_space (fit_word (by decide : IsWord "Some") rfl name)) fit))))

theorem fit_arguments : ∀ arguments : List Expression, AllValid arguments →
    Fit (printArguments arguments)
  | [], _ => fit_nil
  | argument :: others, valid =>
    fit_expression argument valid.1 (by cases others <;> rfl) (fit_others others valid.2)

theorem fit_others : ∀ others : List Expression, AllValid others → Fit (printOthers others)
  | [], _ => fit_nil
  | argument :: others, valid =>
    fit_mark (by decide) (fit_space (fit_expression argument valid.1 (by cases others <;> rfl)
      (fit_others others valid.2)))
end

theorem fit_statement {statement : Statement} (valid : statement.Valid)
    (fit : Fit after) : Fit (statement.print after) := by
  cases statement with
  | declare name value =>
    have assigned := fit_space (fit_mark (c := '=') (by decide) (fit_space
      (fit_expression value valid.2 rfl (fit_mark (c := ';') (by decide) fit))))
    exact fit_word (by decide) rfl (fit_space (fit_word (by decide) rfl (fit_space
      (fit_word valid.1.word rfl assigned))))
  | assign place value =>
    exact fit_operand place valid.1 rfl (fit_space (fit_mark (by decide) (fit_space
      (fit_expression value valid.2.2 rfl (fit_mark (by decide) fit)))))
  | run operand => exact fit_operand operand valid.1 rfl (fit_mark (by decide) fit)

theorem fit_indent (depth : Nat) (fit : Fit after) : Fit (.gap (indent depth) :: after) := by
  refine fit_gap nofun (fun c member => ?_) fit
  rcases List.mem_cons.mp member with rfl | blank
  · decide
  · cases List.eq_of_mem_replicate blank
    decide

theorem fit_body {body : Body} {depth : Nat} (valid : body.Valid depth) : Fit body.print := by
  obtain ⟨statements, value?⟩ := body
  have all := valid.statements
  have value := valid.value
  clear valid
  unfold Body.print
  induction statements with
  | nil =>
    cases value? with
    | none => exact fit_indent 1 fit_nil
    | some operand =>
      exact fit_indent 2 (fit_operand operand (value operand rfl).1 rfl (fit_indent 1 fit_nil))
  | cons statement others ih =>
    exact fit_indent 2 (fit_statement (all statement List.mem_cons_self).1
      (ih (fun other member => all other (.tail _ member)) value))

theorem isApart_append {piece : Piece} {front : List Piece} (apart : piece.isApart front = true)
    (loose : beginsTight after = false) : piece.isApart (front ++ after) = true := by
  cases front with
  | nil => cases piece <;> simp [Piece.isApart, loose]
  | cons first front => cases piece <;> cases first <;> exact apart

/-- Pieces fit before others that do not begin with a word or the like. -/
theorem fit_append {front : List Piece} (fits : Fit front) (loose : beginsTight after = false)
    (fit : Fit after) : Fit (front ++ after) := by
  induction front with
  | nil => exact fit
  | cons piece front ih =>
    rw [Fit] at fits
    exact fit_cons fits.1 (isApart_append fits.2.1 loose) (ih fits.2.2)

/-- The pieces of a function keep apart if those of its header and of its body do. -/
structure Method.Fits (method : Method) : Prop where
  header : Fit method.header
  inner : Fit method.inner

theorem fit_methods {methods : List Method} (fits : ∀ method ∈ methods, method.Fits)
    (blanks : List Char) (some : blanks ≠ []) (gaps : ∀ c ∈ blanks, isGap c = true) :
    Fit (printMethods blanks methods) := by
  induction methods generalizing blanks with
  | nil => exact (by decide : Fit [.gap ['\n']])
  | cons method others ih =>
    have rest := ih (fun other member => fits other (.tail _ member)) ('\n' :: indent 1) nofun
      (forall_mem_of_all (by decide))
    have fit := fits method List.mem_cons_self
    exact fit_gap some gaps (fit_word (by decide) rfl (fit_space (fit_append fit.header rfl
      (fit_space (fit_group .brace fit.inner rest)))))

theorem fit_implementation {trait type : Names} {methods : List Method} (traitValid : trait.Valid)
    (valid : type.Valid) (fits : ∀ method ∈ methods, method.Fits) :
    Fit (printImplementation trait type methods) := by
  have inner := fit_methods fits (indent 1) nofun (forall_mem_of_all (by decide))
  have named := fit_path valid rfl (fit_space (fit_group .brace inner
    (by decide : Fit [.gap ['\n']])))
  exact fit_word (by decide) rfl (fit_space (fit_path traitValid rfl
    (fit_space (fit_word (by decide) rfl (fit_space named)))))

end Fitting

end EntityTables.Source
