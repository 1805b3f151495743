/-
# EntityTables.Proofs.Derive.Grouping — types that differ in their grouping

Parentheses, and the groups that expansion leaves behind, may stand around any part of a type. Two
types are the same but for their grouping if they are equal once all of it is taken away. Only one
place of a type is looked at with its grouping: the argument of `Vec` and of `DateTime`.

* `TypeExpr.ungrouped` — a type without any grouping.
* `TypeExpr.HidesArgument` — grouping keeps the argument that matters from being seen.
* `regrouped_alike` — what types that differ in their grouping have in common, and exactly when they
  declare the same variant; `vec_regrouped` — when they do not.
-/
import EntityTables.Derive.Classification

namespace EntityTables.Source

set_option autoImplicit false

/-- A text without its parentheses. -/
def withoutParens (text : String) : String :=
  String.ofList (text.toList.filter fun c => c != '(' && c != ')')

mutual
/-- A type without any grouping. Of a type that is kept as text, the parentheses are left out. -/
def TypeExpr.ungrouped : TypeExpr → TypeExpr
  | .path qualifier? absolute segments =>
    .path (qualifier?.map withoutParens) absolute (ungroupedSegments segments)
  | .paren inner => inner.ungrouped
  | .grouped inner => inner.ungrouped
  | .other text => .other (withoutParens text)

/-- Segments without any grouping. -/
def ungroupedSegments : List Segment → List Segment
  | [] => []
  | .mk name arguments :: rest => .mk name arguments.ungrouped :: ungroupedSegments rest

/-- Arguments without any grouping. -/
def Arguments.ungrouped : Arguments → Arguments
  | .none => .none
  | .angle turbofish arguments trailing =>
    .angle turbofish (ungroupedArguments arguments) trailing

/-- A list of arguments without any grouping. -/
def ungroupedArguments : List Argument → List Argument
  | [] => []
  | .lifetime text :: rest => .lifetime text :: ungroupedArguments rest
  | .type type :: rest => .type type.ungrouped :: ungroupedArguments rest
  | .other text :: rest => .other (withoutParens text) :: ungroupedArguments rest
end

/-- A segment without any grouping. -/
def Segment.ungrouped : Segment → Segment
  | .mk name arguments => .mk name arguments.ungrouped

theorem ungroupedSegments_eq (segments : List Segment) :
    ungroupedSegments segments = segments.map Segment.ungrouped := by
  induction segments with
  | nil => rfl
  | cons segment rest ih =>
    obtain ⟨name, arguments⟩ := segment
    rw [ungroupedSegments, ih]
    rfl

@[simp] theorem Segment.name_ungrouped (segment : Segment) :
    segment.ungrouped.name = segment.name := by
  cases segment
  rfl

theorem Segment.soleArgument?_ungrouped (segment : Segment) :
    segment.ungrouped.soleArgument? = segment.soleArgument?.map TypeExpr.ungrouped := by
  obtain ⟨name, _ | ⟨turbofish, arguments, trailing⟩⟩ := segment
  · rfl
  · match arguments with
    | [] => rfl
    | [.lifetime _] => rfl
    | [.type _] => rfl
    | [.other _] => rfl
    | first :: second :: rest => cases first <;> cases second <;> rfl

namespace TypeExpr

/-! ## What grouping leaves as it is -/

variable {type other : TypeExpr}

/-- A type that nothing stands around is a path, or kept as text. -/
theorem bare_cases (type : TypeExpr) :
    (∃ qualifier? absolute segments, type.bare = .path qualifier? absolute segments) ∨
      ∃ text, type.bare = .other text := by
  cases shape : type.bare with
  | path qualifier? absolute segments => exact .inl ⟨_, _, _, rfl⟩
  | paren inner => exact absurd shape (bare_ne_wrapped type inner).1
  | grouped inner => exact absurd shape (bare_ne_wrapped type inner).2
  | other text => exact .inr ⟨_, rfl⟩

theorem ungrouped_bare (type : TypeExpr) : type.bare.ungrouped = type.ungrouped := by
  fun_induction bare type with
  | case1 inner ih => rw [ih, ungrouped]
  | case2 inner ih => rw [ih, ungrouped]
  | case3 => rfl

theorem bare_bare (type : TypeExpr) : type.bare.bare = type.bare := by
  obtain ⟨_, _, _, shape⟩ | ⟨_, shape⟩ := type.bare_cases
  · rw [shape, bare_path]
  · rw [shape]
    rfl

theorem bare_ungrouped (type : TypeExpr) : type.ungrouped.bare = type.ungrouped := by
  rw [← ungrouped_bare]
  obtain ⟨_, _, _, shape⟩ | ⟨_, shape⟩ := type.bare_cases
  · rw [shape, ungrouped, bare_path]
  · rw [shape]
    rfl

theorem lastName?_ungrouped (type : TypeExpr) :
    type.ungrouped.lastName? = type.bare.lastName? := by
  rw [← ungrouped_bare]
  obtain ⟨qualifier?, _, _, shape⟩ | ⟨_, shape⟩ := type.bare_cases
  · rw [shape, ungrouped, ungroupedSegments_eq]
    cases qualifier? <;> simp [lastName?, Function.comp_def]
  · rw [shape]
    rfl

theorem soleArgument?_ungrouped (type : TypeExpr) :
    type.ungrouped.soleArgument? = type.bare.soleArgument?.map ungrouped := by
  rw [← ungrouped_bare]
  obtain ⟨_, _, segments, shape⟩ | ⟨_, shape⟩ := type.bare_cases
  · rw [shape, ungrouped, ungroupedSegments_eq]
    simp only [soleArgument?, lastSegment?, List.getLast?_map]
    cases segments.getLast? with
    | none => rfl
    | some last => exact last.soleArgument?_ungrouped
  · rw [shape]
    rfl

theorem unwrapOption_of_option {inner : TypeExpr} (named : type.bare.lastName? = some "Option")
    (applied : type.bare.soleArgument? = some inner) : type.unwrapOption = (inner.bare, true) := by
  simp [unwrapOption, named, applied]

theorem unwrapOption_of_not_option
    (plain : ¬ (type.bare.lastName? = some "Option" ∧ type.bare.soleArgument?.isSome = true)) :
    type.unwrapOption = (type.bare, false) := by
  unfold unwrapOption
  simp only
  split
  · next inner named applied => exact absurd ⟨named, applied ▸ rfl⟩ plain
  · rfl

/-- The type inside `Option`, and whether there is one, are found through any grouping. -/
theorem unwrapOption_ungrouped (type : TypeExpr) :
    type.ungrouped.unwrapOption = (type.unwrapOption.1.ungrouped, type.unwrapOption.2) := by
  by_cases option : type.bare.lastName? = some "Option" ∧ type.bare.soleArgument?.isSome = true
  · obtain ⟨named, some⟩ := option
    obtain ⟨inner, applied⟩ := Option.isSome_iff_exists.mp some
    have whole : type.ungrouped.unwrapOption = (inner.ungrouped.bare, true) := by
      apply unwrapOption_of_option
      · rw [bare_ungrouped, lastName?_ungrouped, named]
      · rw [bare_ungrouped, soleArgument?_ungrouped, applied]
        rfl
    rw [whole, unwrapOption_of_option named applied, bare_ungrouped, ungrouped_bare]
  · rw [unwrapOption_of_not_option option, unwrapOption_of_not_option, bare_ungrouped,
      ungrouped_bare]
    rwa [bare_ungrouped, lastName?_ungrouped, soleArgument?_ungrouped, Option.isSome_map]

theorem bare_unwrapOption (type : TypeExpr) :
    type.unwrapOption.1.bare = type.unwrapOption.1 := by
  by_cases option : type.bare.lastName? = some "Option" ∧ type.bare.soleArgument?.isSome = true
  · obtain ⟨named, some⟩ := option
    obtain ⟨inner, applied⟩ := Option.isSome_iff_exists.mp some
    rw [unwrapOption_of_option named applied, bare_bare]
  · rw [unwrapOption_of_not_option option, bare_bare]

/-- The type inside `Vec` is found with whatever stands around it. -/
theorem element_ungrouped (bare : type.bare = type) :
    type.ungrouped.element = type.element.ungrouped := by
  unfold element
  rw [lastName?_ungrouped, soleArgument?_ungrouped, bare]
  cases type.soleArgument? with
  | none => simp
  | some inner =>
    simp only [Option.map_some]
    split <;> simp_all

/-! ## The argument that matters -/

/-- The name of the one argument that makes a difference to what a name declares. -/
def decisiveArgument? (name : String) : Option String :=
  if name = "Vec" then some "u8" else if name = "DateTime" then some "Utc" else none

/-- Whether a type is applied to the argument that makes a difference to its name. -/
def isDecided (type : TypeExpr) (name : String) : Bool :=
  (decisiveArgument? name).any type.isAppliedTo

/-- The variant that a name declares depends on one argument at most. -/
theorem label_declaredOfName {name : String}
    (same : type.isDecided name = other.isDecided name) :
    (type.declaredOfName name).label.1 = (other.declaredOfName name).label.1 := by
  unfold declaredOfName
  split
  · rfl
  · split
    · rfl
    · split
      · next date =>
        subst date
        have applied : type.isAppliedTo "Utc" = other.isAppliedTo "Utc" := same
        rw [applied]
        split <;> rfl
      · by_cases vec : name = "Vec"
        · subst vec
          have applied : type.isAppliedTo "u8" = other.isAppliedTo "u8" := same
          simp only [applied, true_and]
          split <;> rfl
        · simp [vec, DeclaredType.label]

/-- That argument makes a difference. -/
theorem label_declaredOfName_ne {name : String} (decided : type.isDecided name = true)
    (undecided : other.isDecided name = false) :
    (type.declaredOfName name).label.1 ≠ (other.declaredOfName name).label.1 := by
  unfold isDecided decisiveArgument? at decided undecided
  split at decided
  · next vec =>
    subst vec
    simp only [Option.any_some, if_true] at decided undecided
    have bytes : type.declaredOfName "Vec" = .bytes := by
      simp [declaredOfName, plainTypes, IntType.all, IntType.name, unmappedNames, decided]
    have object : other.declaredOfName "Vec" = .object other.text := by
      simp [declaredOfName, plainTypes, IntType.all, IntType.name, unmappedNames, undecided]
    simp [bytes, object, DeclaredType.label]
  · split at decided
    · next date =>
      subst date
      simp only [Option.any_some, if_true] at decided undecided
      have date : type.declaredOfName "DateTime" = .dateTime := by
        simp [declaredOfName, plainTypes, IntType.all, IntType.name, unmappedNames, decided]
      have unsupported : other.declaredOfName "DateTime" = .unsupported other.text := by
        simp [declaredOfName, plainTypes, IntType.all, IntType.name, unmappedNames]
        simpa using undecided
      simp [date, unsupported, DeclaredType.label]
    · cases decided

/-- Grouping keeps the argument that makes a difference from being seen. -/
def HidesArgument (type : TypeExpr) : Prop :=
  ∃ name decisive argument, type.bare.lastName? = some name ∧
    decisiveArgument? name = some decisive ∧ type.bare.soleArgument? = some argument ∧
      argument.bare.lastName? = some decisive ∧ argument.bare ≠ argument

theorem lastName?_of_wrapped {argument : TypeExpr} (wrapped : argument.bare ≠ argument) :
    argument.lastName? = none := by
  cases argument with
  | path => exact absurd (bare_path _ _ _) wrapped
  | other => exact absurd rfl wrapped
  | paren | grouped => rfl

/-- An argument that is seen with its grouping is seen without it, and the other way round if there
is none. -/
theorem isAppliedTo_bare_iff (type : TypeExpr) (decisive : String) :
    type.bare.isAppliedTo decisive = true ↔
      ∃ argument, type.bare.soleArgument? = some argument ∧
        argument.bare.lastName? = some decisive ∧ argument.bare = argument := by
  unfold isAppliedTo
  rw [beq_iff_eq, Option.bind_eq_some_iff]
  refine exists_congr fun argument => and_congr_right fun _ => ?_
  constructor
  · intro named
    by_cases bare : argument.bare = argument
    · exact ⟨bare.symm ▸ named, bare⟩
    · rw [lastName?_of_wrapped bare] at named
      cases named
  · rintro ⟨named, bare⟩
    rwa [bare] at named

theorem isAppliedTo_ungrouped_iff (type : TypeExpr) (decisive : String) :
    type.ungrouped.isAppliedTo decisive = true ↔
      ∃ argument, type.bare.soleArgument? = some argument ∧
        argument.bare.lastName? = some decisive := by
  unfold isAppliedTo
  rw [beq_iff_eq, soleArgument?_ungrouped, Option.bind_map, Option.bind_eq_some_iff]
  exact exists_congr fun argument => by rw [Function.comp_apply, lastName?_ungrouped]

/-- An argument is hidden exactly if taking the grouping away makes a difference. -/
theorem hidesArgument_iff {name : String} (named : type.bare.lastName? = some name) :
    type.HidesArgument ↔ type.ungrouped.isDecided name = true ∧ type.bare.isDecided name = false := by
  unfold isDecided HidesArgument
  rw [named]
  cases matters : decisiveArgument? name with
  | none => simp [matters]
  | some decisive =>
    rw [Option.any_some, Option.any_some, isAppliedTo_ungrouped_iff, ← Bool.not_eq_true,
      isAppliedTo_bare_iff]
    constructor
    · rintro ⟨_, _, argument, ⟨⟩, found, applied, seen, wrapped⟩
      cases matters.symm.trans found
      refine ⟨⟨argument, applied, seen⟩, ?_⟩
      rintro ⟨_, again, -, bare⟩
      cases applied.symm.trans again
      exact wrapped bare
    · rintro ⟨⟨argument, applied, seen⟩, unseen⟩
      exact ⟨name, decisive, argument, rfl, matters, applied, seen,
        fun bare => unseen ⟨argument, applied, seen, bare⟩⟩

theorem isDecided_ungrouped {name : String} (decided : type.bare.isDecided name = true) :
    type.ungrouped.isDecided name = true := by
  unfold isDecided at decided ⊢
  cases matters : decisiveArgument? name with
  | none => simp [matters] at decided
  | some decisive =>
    rw [matters, Option.any_some, isAppliedTo_bare_iff] at decided
    obtain ⟨argument, applied, seen, -⟩ := decided
    rw [Option.any_some, isAppliedTo_ungrouped_iff]
    exact ⟨argument, applied, seen⟩

/-- Types that differ in their grouping declare the same variant exactly if it hides the decisive
argument of both or of neither. -/
theorem label_declared_iff (same : type.ungrouped = other.ungrouped) :
    type.declared.label.1 = other.declared.label.1 ↔
      (type.HidesArgument ↔ other.HidesArgument) := by
  have names : type.bare.lastName? = other.bare.lastName? := by
    rw [← lastName?_ungrouped, same, lastName?_ungrouped]
  unfold declared
  cases named : other.bare.lastName? with
  | none =>
    rw [named] at names
    simp [names, named, HidesArgument, DeclaredType.label]
  | some name =>
    rw [named] at names
    have first : type.bare.isDecided name = true → other.ungrouped.isDecided name = true :=
      fun decided => same ▸ isDecided_ungrouped decided
    have second : other.bare.isDecided name = true → other.ungrouped.isDecided name = true :=
      isDecided_ungrouped
    rw [names, hidesArgument_iff names, hidesArgument_iff named, same]
    -- what is decided with the grouping is decided without it, on both sides
    cases one : type.bare.isDecided name <;> cases two : other.bare.isDecided name
    · exact iff_of_true (label_declaredOfName (one.trans two.symm)) Iff.rfl
    · exact iff_of_false (label_declaredOfName_ne two one).symm (by simp [second two])
    · exact iff_of_false (label_declaredOfName_ne one two) (by simp [first one])
    · exact iff_of_true (label_declaredOfName (one.trans two.symm)) Iff.rfl

end TypeExpr

/-- Types that differ in their grouping alone are both nullable or neither is, have the same element up
to grouping, and declare the same variant exactly if grouping hides the argument that matters in both
or in neither. -/
theorem regrouped_alike {type other : TypeExpr} (same : type.ungrouped = other.ungrouped) :
    type.unwrapOption.2 = other.unwrapOption.2 ∧
      type.unwrapOption.1.element.ungrouped = other.unwrapOption.1.element.ungrouped ∧
        (type.unwrapOption.1.declared.label.1 = other.unwrapOption.1.declared.label.1 ↔
          (type.unwrapOption.1.HidesArgument ↔ other.unwrapOption.1.HidesArgument)) := by
  have parts : (type.unwrapOption.1.ungrouped, type.unwrapOption.2) =
      (other.unwrapOption.1.ungrouped, other.unwrapOption.2) := by
    rw [← TypeExpr.unwrapOption_ungrouped, same, TypeExpr.unwrapOption_ungrouped]
  obtain ⟨inner, nullable⟩ := Prod.ext_iff.mp parts
  refine ⟨nullable, ?_, TypeExpr.label_declared_iff inner⟩
  rw [← TypeExpr.element_ungrouped type.bare_unwrapOption,
    ← TypeExpr.element_ungrouped other.bare_unwrapOption]
  exact congrArg TypeExpr.element inner

/-- A name alone. -/
def TypeExpr.named (name : String) : TypeExpr := .path none false [.mk name .none]

/-- A name that is applied to one type. -/
def TypeExpr.appliedTo (name : String) (argument : TypeExpr) : TypeExpr :=
  .path none false [.mk name (.angle false [.type argument] false)]

/-- Parentheses around an optional date and around what it is an option of make no difference. -/
theorem regrouped_alike_date :
    let date : TypeExpr := .appliedTo "DateTime" (.named "Utc")
    let plain : TypeExpr := .appliedTo "Option" date
    let regrouped : TypeExpr := .paren (.appliedTo "Option" (.grouped (.paren date)))
    plain.ungrouped = regrouped.ungrouped ∧ regrouped.unwrapOption.2 = true ∧
      regrouped.unwrapOption.1.declared.label.1 = "DateTime" := by
  intro date plain regrouped
  have same : plain.ungrouped = regrouped.ungrouped := rfl
  obtain ⟨nullable, -, variant⟩ := regrouped_alike same
  -- inside, the two are one type
  exact ⟨same, nullable.symm.trans rfl, (variant.mpr Iff.rfl).symm.trans rfl⟩

/-- A parenthesis around the argument makes bytes an object. -/
theorem vec_regrouped :
    let plain : TypeExpr := .appliedTo "Vec" (.named "u8")
    let regrouped : TypeExpr := .appliedTo "Vec" (.paren (.named "u8"))
    plain.ungrouped = regrouped.ungrouped ∧ plain.unwrapOption.1.declared = .bytes ∧
      regrouped.unwrapOption.1.declared = .object "Vec<(u8)>" := by
  refine ⟨rfl, ?_, ?_⟩
  · decide
  · decide

end EntityTables.Source
