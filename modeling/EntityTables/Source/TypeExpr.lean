/-
# EntityTables.Source.TypeExpr — the types that declarations name

Only paths, parentheses and groups have a shape of their own here; of every other type (references,
tuples, arrays, functions and so on) the text alone matters.

* `TypeExpr.text` — the tokens of a type without any blank, those inside its literals included.
* `TypeExpr.bare` — a type without the parentheses and groups around it.
* `TypeExpr.soleArgument?` — the one type that a path's last segment is applied to.
-/

namespace EntityTables.Source

set_option autoImplicit false

mutual
/-- A type. -/
inductive TypeExpr where
  /-- A path: the text of a qualification such as `<T as A>::`, whether it starts with `::`, and its
  segments. -/
  | path (qualifier? : Option String) (absolute : Bool) (segments : List Segment)
  | paren (inner : TypeExpr)
  /-- A type that expansion has kept together; its text does not show that. -/
  | grouped (inner : TypeExpr)
  | other (text : String)

/-- A segment of a path. -/
inductive Segment where
  | mk (name : String) (arguments : Arguments)

/-- What a segment is applied to. -/
inductive Arguments where
  | none
  /-- Arguments in angle brackets: whether `::` stands before them, and whether a comma ends
  them. -/
  | angle (turbofish : Bool) (arguments : List Argument) (trailing : Bool)

/-- An argument in angle brackets. -/
inductive Argument where
  | lifetime (text : String)
  | type (type : TypeExpr)
  /-- A constant, an equation or a bound. -/
  | other (text : String)
end

instance : Inhabited TypeExpr := ⟨.other ""⟩

/-- The name of a segment. -/
def Segment.name : Segment → String
  | mk name _ => name

/-- What a segment is applied to. -/
def Segment.arguments : Segment → Arguments
  | mk _ arguments => arguments

/-- Whether a segment stands for its name alone. -/
def Segment.isPlain : Segment → Bool
  | mk _ .none => true
  | _ => false

/-- Whether an argument is a lifetime. -/
def Argument.isLifetime : Argument → Bool
  | .lifetime _ => true
  | _ => false

mutual
/-- The tokens of a type, one behind the other. -/
def TypeExpr.tokens : TypeExpr → String
  | .path qualifier? absolute segments =>
    qualifier?.getD "" ++ (if absolute then "::" else "") ++
      "::".intercalate (segmentTokens segments)
  | .paren inner => "(" ++ inner.tokens ++ ")"
  | .grouped inner => inner.tokens
  | .other text => text

/-- The tokens of each segment. -/
def segmentTokens : List Segment → List String
  | [] => []
  | segment :: rest => segment.tokens :: segmentTokens rest

/-- The tokens of a segment. -/
def Segment.tokens : Segment → String
  | .mk name arguments => name ++ arguments.tokens

/-- The tokens of arguments: the lifetimes come first, and each argument keeps the comma behind it,
so a lifetime in last place leaves the text with a comma at its end. -/
def Arguments.tokens : Arguments → String
  | .none => ""
  | .angle turbofish arguments trailing =>
    let others := otherTokens arguments
    let lifetimeLast := (arguments.getLast?.map Argument.isLifetime).getD false
    (if turbofish then "::<" else "<") ++ ",".intercalate (lifetimeTokens arguments ++ others) ++
      (if trailing || (lifetimeLast && !others.isEmpty) then "," else "") ++ ">"

/-- The tokens of the lifetimes. -/
def lifetimeTokens : List Argument → List String
  | [] => []
  | .lifetime text :: rest => text :: lifetimeTokens rest
  | _ :: rest => lifetimeTokens rest

/-- The tokens of all arguments but the lifetimes. -/
def otherTokens : List Argument → List String
  | [] => []
  | .lifetime _ :: rest => otherTokens rest
  | .type type :: rest => type.tokens :: otherTokens rest
  | .other text :: rest => text :: otherTokens rest
end

/-- A text without its spaces. -/
def spaceless (text : String) : String := String.ofList (text.toList.filter (· != ' '))

/-- The text of a type: all its tokens, without a space anywhere. -/
def TypeExpr.text (type : TypeExpr) : String := spaceless type.tokens

/-- The type inside the parentheses and groups that stand around it. -/
def TypeExpr.bare : TypeExpr → TypeExpr
  | .paren inner | .grouped inner => inner.bare
  | type => type

/-- The last segment of a path. -/
def TypeExpr.lastSegment? : TypeExpr → Option Segment
  | .path _ _ segments => segments.getLast?
  | _ => none

/-- The name of a path's last segment, where nothing qualifies the path. -/
def TypeExpr.lastName? : TypeExpr → Option String
  | .path none _ segments => segments.getLast?.map Segment.name
  | _ => none

/-- The type that a segment is applied to, if it is applied to that alone. -/
def Segment.soleArgument? : Segment → Option TypeExpr
  | .mk _ (.angle _ [.type type] _) => some type
  | _ => none

/-- The type that a path's last segment is applied to, if it is applied to that alone. -/
def TypeExpr.soleArgument? (type : TypeExpr) : Option TypeExpr :=
  type.lastSegment?.bind Segment.soleArgument?

/-- A type has no parentheses and no group around it once they are taken away. -/
theorem TypeExpr.bare_ne_wrapped (type inner : TypeExpr) :
    type.bare ≠ .paren inner ∧ type.bare ≠ .grouped inner := by
  fun_induction TypeExpr.bare type with
  | case1 _ ih => exact ih
  | case2 _ ih => exact ih
  | case3 _ notParen notGrouped =>
    exact ⟨fun same => notParen inner same, fun same => notGrouped inner same⟩

@[simp] theorem TypeExpr.bare_path (qualifier? : Option String) (absolute : Bool)
    (segments : List Segment) :
    (TypeExpr.path qualifier? absolute segments).bare = .path qualifier? absolute segments := by
  rw [TypeExpr.bare] <;> rintro _ ⟨⟩

end EntityTables.Source
