/-
# EntityTables.Derive.Classification — what a field's type declares

Only the way a type is written counts: the last name of a path decides, whatever stands before it,
and an alias is not seen through.

* `TypeExpr.unwrapOption` — the type that a column holds, and whether the column may be empty.
* `TypeExpr.declared` — the declared type of a field that is no relation.
* `TypeExpr.element` — the type of the rows that a collection refers to.
-/
import EntityTables.Schema.DeclaredType
import EntityTables.Source.TypeExpr

namespace EntityTables.Source.TypeExpr

set_option autoImplicit false

/-- The type inside `Option`, and that the field may be empty; any other type stays itself. -/
def unwrapOption (type : TypeExpr) : TypeExpr × Bool :=
  let type := type.bare
  match type.lastName?, type.soleArgument? with
  | some "Option", some inner => (inner.bare, true)
  | _, _ => (type, false)

/-- The type inside `Vec`; any other type stays itself. -/
def element (type : TypeExpr) : TypeExpr :=
  match type.lastName?, type.soleArgument? with
  | some "Vec", some inner => inner
  | _, _ => type

/-- Whether the path's last segment is applied to one type of a given name. -/
def isAppliedTo (type : TypeExpr) (name : String) : Bool :=
  (type.soleArgument?.bind lastName?) == some name

/-- The names of the types that a column holds as they are. -/
def plainTypes : List (String × DeclaredType) :=
  IntType.all.map (fun type => (type.name, .integer type)) ++
    [("bool", .boolean), ("f32", .float .single), ("f64", .float .double), ("char", .char),
     ("String", .text)]

/-- The names of the types that no column can hold: integers beyond 64 signed bits or of a width
that differs from machine to machine, and an `Option` that is not the outermost. -/
def unmappedNames : List String := ["u64", "u128", "i128", "usize", "isize", "Option"]

/-- The declared type of a field whose type has this last name. -/
def declaredOfName (type : TypeExpr) (name : String) : DeclaredType :=
  match plainTypes.find? fun plain => plain.1 == name with
  | some plain => plain.2
  | none =>
    if unmappedNames.contains name then .unsupported type.text
    else if name = "DateTime" then
      if type.isAppliedTo "Utc" then .dateTime else .unsupported type.text
    else if name = "Vec" ∧ type.isAppliedTo "u8" then .bytes
    else .object type.text

/-- The declared type of a field that is no relation. -/
def declared (type : TypeExpr) : DeclaredType :=
  match type.bare.lastName? with
  | some name => type.bare.declaredOfName name
  | none => .unsupported type.bare.text

/-- Parentheses around a type make no difference to what it declares. -/
@[simp] theorem declared_paren (type : TypeExpr) : (paren type).declared = type.declared := by
  simp [declared, bare]

/-- A group around a type makes no difference to what it declares. -/
@[simp] theorem declared_grouped (type : TypeExpr) : (grouped type).declared = type.declared := by
  simp [declared, bare]

/-- A field's type alone never declares a relation. -/
theorem declared_ne_relation (type : TypeExpr) (path : String) :
    type.declared ≠ .oneToOne path ∧ type.declared ≠ .oneToMany path := by
  unfold declared
  split
  · unfold declaredOfName
    split
    · next found =>
      have held := List.mem_of_find?_eq_some found
      simp only [plainTypes, IntType.all, List.map_cons, List.map_nil, List.cons_append,
        List.nil_append, List.mem_cons, List.not_mem_nil, or_false] at held
      rcases held with h | h | h | h | h | h | h | h | h | h | h | h <;> simp [h]
    · repeat' split
      all_goals simp
  · simp

end EntityTables.Source.TypeExpr
