/-
# EntityTables.Proofs.Entity.Fields — the fields of two records side by side

Two values of each field of a layout can stand in a relation that depends on the field's name and
type. Replacing one field changes what holds of that field and of no other.

* `Fields.Related` — the relation holds field by field.
* `Fields.field?` — the type and the value of the field with a name; `visit?_eq`.
* `Related.replace?` — one field replaced by what its name and type make of it.
-/
import EntityTables.Entity.Derived

namespace EntityTables.Fields

set_option autoImplicit false

variable {objects : Objects} {α : Type}

/-! ## The field of a name -/

/-- The type and the value of the field with a name. -/
def field? (name : String) (layout : Layout objects) (fields : Fields layout) :
    Option (Σ type : FieldType objects, type.Carrier) :=
  fields.visit? name Sigma.mk layout

theorem visit?_eq (name : String) (use : (type : FieldType objects) → type.Carrier → α)
    (layout : Layout objects) (fields : Fields layout) :
    visit? name use layout fields =
      (field? name layout fields).map fun field => use field.1 field.2 := by
  induction layout with
  | nil => rfl
  | cons first rest ih =>
    obtain ⟨other, type⟩ := first
    obtain ⟨a, fields⟩ := fields
    simp only [field?, visit?]
    split
    · rfl
    · exact ih fields

theorem mem_of_field? {name : String} {layout : Layout objects} {fields : Fields layout}
    {field : Σ type : FieldType objects, type.Carrier}
    (found : field? name layout fields = some field) : (name, field.1) ∈ layout := by
  induction layout with
  | nil => cases found
  | cons first rest ih =>
    obtain ⟨other, type⟩ := first
    obtain ⟨a, fields⟩ := fields
    simp only [field?, visit?] at found
    split at found
    · next same =>
      cases found
      rw [same]
      exact List.mem_cons_self
    · exact List.mem_cons_of_mem _ (ih found)

theorem exists_field? {name : String} {layout : Layout objects}
    (member : name ∈ layout.map Prod.fst) (fields : Fields layout) :
    ∃ field, field? name layout fields = some field := by
  induction layout with
  | nil => cases member
  | cons first rest ih =>
    obtain ⟨other, type⟩ := first
    obtain ⟨a, fields⟩ := fields
    simp only [field?, visit?]
    split
    · exact ⟨_, rfl⟩
    · next different =>
      rcases List.mem_cons.mp member with same | among
      · exact absurd same.symm different
      · exact ih among fields

/-- Which fields there are is told by the layout. -/
theorem field?_eq_none_iff {name : String} {layout : Layout objects} {fields : Fields layout} :
    field? name layout fields = none ↔ name ∉ layout.map Prod.fst := by
  constructor
  · intro missing member
    obtain ⟨field, found⟩ := exists_field? member fields
    cases found.symm.trans missing
  · intro other
    refine Option.eq_none_iff_forall_ne_some.mpr fun field found => other ?_
    exact List.mem_map_of_mem (mem_of_field? found)

/-! ## Two records -/

/-- A relation holds of each field's two values. -/
def Related (R : String → (type : FieldType objects) → type.Carrier → type.Carrier → Prop) :
    (layout : Layout objects) → Fields layout → Fields layout → Prop
  | [], (), () => True
  | (name, type) :: rest, (a, as), (b, bs) => R name type a b ∧ Related R rest as bs

section Related

variable {R S : String → (type : FieldType objects) → type.Carrier → type.Carrier → Prop}
  {layout : Layout objects} {fields others : Fields layout}

theorem Related.imp
    (step : ∀ name type, (name, type) ∈ layout → ∀ a b, R name type a b → S name type a b)
    (related : Related R layout fields others) : Related S layout fields others := by
  induction layout with
  | nil => trivial
  | cons first rest ih =>
    obtain ⟨name, type⟩ := first
    obtain ⟨a, fields⟩ := fields
    obtain ⟨b, others⟩ := others
    refine ⟨step name type List.mem_cons_self a b related.1, ih ?_ related.2⟩
    intro name type member
    exact step name type (List.mem_cons_of_mem _ member)

theorem Related.and (first : Related R layout fields others)
    (second : Related S layout fields others) :
    Related (fun name type a b => R name type a b ∧ S name type a b) layout fields others := by
  induction layout with
  | nil => trivial
  | cons head rest ih => exact ⟨⟨first.1, second.1⟩, ih first.2 second.2⟩

/-- What follows of the first of two records holds of it by itself. -/
theorem Related.left
    (step : ∀ name type, ∀ a b, R name type a b → S name type a a)
    (related : Related R layout fields others) : Related S layout fields fields := by
  induction layout with
  | nil => trivial
  | cons head rest ih => exact ⟨step _ _ _ _ related.1, ih related.2⟩

theorem Related.field? {name : String} {type : FieldType objects} {a : type.Carrier}
    (related : Related R layout fields others)
    (found : Fields.field? name layout fields = some ⟨type, a⟩) :
    ∃ b, Fields.field? name layout others = some ⟨type, b⟩ ∧ R name type a b := by
  induction layout with
  | nil => cases found
  | cons first rest ih =>
    obtain ⟨other, kind⟩ := first
    obtain ⟨c, fields⟩ := fields
    obtain ⟨d, others⟩ := others
    simp only [Fields.field?, visit?] at found ⊢
    split at found
    · next same =>
      cases found
      exact ⟨d, by simp [same], same ▸ related.1⟩
    · next different =>
      obtain ⟨b, behind, holds⟩ := ih related.2 found
      exact ⟨b, by rw [if_neg different]; exact behind, holds⟩

/-- Records of one layout have a field, or do not have it, together. -/
theorem Related.field?_cases (name : String) (related : Related R layout fields others) :
    (Fields.field? name layout fields = none ∧ Fields.field? name layout others = none) ∨
      ∃ type a b, Fields.field? name layout fields = some ⟨type, a⟩ ∧
        Fields.field? name layout others = some ⟨type, b⟩ ∧ R name type a b := by
  cases found : Fields.field? name layout fields with
  | none => exact .inl ⟨rfl, field?_eq_none_iff.mpr (field?_eq_none_iff.mp found)⟩
  | some field =>
    obtain ⟨type, a⟩ := field
    obtain ⟨b, there, holds⟩ := related.field? found
    exact .inr ⟨type, a, b, rfl, there, holds⟩

theorem related_initial (fields : Fields layout) :
    Related (fun _ type _ b => b = type.initial) layout fields (Fields.initial layout) := by
  induction layout with
  | nil => trivial
  | cons first rest ih =>
    obtain ⟨name, type⟩ := first
    obtain ⟨a, fields⟩ := fields
    exact ⟨rfl, ih fields⟩

/-- One field replaced: what is made for its type stands in the new relation to the field's other
value, and of every other field the new relation follows from the old one. -/
theorem Related.replace? {name : String}
    {make : (type : FieldType objects) → Option (Except Error type.Carrier)}
    (distinct : (layout.map Prod.fst).Nodup) {type : FieldType objects} {a b : type.Carrier}
    (found : Fields.field? name layout fields = some ⟨type, a⟩) (made : make type = some (.ok b))
    (here : S name type a b)
    (there : ∀ other type, other ≠ name → ∀ a b, R other type a b → S other type a b)
    (related : Related R layout fields others) :
    ∃ changed, Fields.replace? name make layout others = some (.ok changed) ∧
      Related S layout fields changed := by
  induction layout with
  | nil => cases found
  | cons first rest ih =>
    obtain ⟨other, kind⟩ := first
    obtain ⟨c, fields⟩ := fields
    obtain ⟨d, others⟩ := others
    obtain ⟨fresh, distinct⟩ := List.nodup_cons.mp distinct
    simp only [Fields.field?, visit?] at found
    split at found
    · next same =>
      cases found
      subst same
      refine ⟨(b, others), by simp [Fields.replace?, made, Except.map], here, ?_⟩
      refine related.2.imp fun next type member => there next type ?_
      rintro rfl
      exact fresh (List.mem_map.mpr ⟨_, member, rfl⟩)
    · next different =>
      obtain ⟨changed, replaced, holds⟩ := ih distinct found related.2
      refine ⟨(d, changed), ?_, there other kind different c d related.1, holds⟩
      simp [Fields.replace?, different, replaced, Except.map]

end Related

/-- A field that was replaced is there, and something was made for its type. -/
theorem field?_of_replace? {name : String}
    {make : (type : FieldType objects) → Option (Except Error type.Carrier)}
    {layout : Layout objects} {fields changed : Fields layout}
    (replaced : replace? name make layout fields = some (.ok changed)) :
    ∃ type a b, field? name layout fields = some ⟨type, a⟩ ∧ make type = some (.ok b) := by
  induction layout with
  | nil => cases replaced
  | cons first rest ih =>
    obtain ⟨other, type⟩ := first
    obtain ⟨a, fields⟩ := fields
    simp only [replace?] at replaced
    simp only [field?, visit?]
    split at replaced
    · next same =>
      obtain ⟨made, found, given⟩ := Option.map_eq_some_iff.mp replaced
      cases made with
      | error fault => cases given
      | ok b => exact ⟨type, a, b, if_pos same, found⟩
    · next different =>
      obtain ⟨made, found, given⟩ := Option.map_eq_some_iff.mp replaced
      cases made with
      | error fault => cases given
      | ok others =>
        obtain ⟨kind, c, b, here, found⟩ := ih found
        exact ⟨kind, c, b, (if_neg different).trans here, found⟩

end EntityTables.Fields
