/-
# EntityTables.Proofs.Derive.Election — the field that is the identity

The fields of a declaration are looked at one after the other, each as far as its own attributes go.
Behind that, one of them is the identity: the one that is marked or, where none is, the last one
named `id`. It has to fit, and the others stay in their order.

* `Candidate.Suits`, `Candidate.FitsIdentity` — what a field must fulfil by itself, and as identity.
* `candidates_eq_ok_iff` — the checks of all fields, with one marked at most.
* `Elects` — the field that is the identity, and the others; `splitIdentity_eq_ok_iff` — the choice.
-/
import EntityTables.Proofs.Derive.Grouping
import EntityTables.Proofs.Derive.Restated

namespace EntityTables

set_option autoImplicit false

open Source

/-! ## Single fields -/

/-- The types of 64 bits with a sign are the paths of this last name, whatever is around them. -/
theorem Source.TypeExpr.declared_eq_int64_iff (type : TypeExpr) :
    type.declared = .integer .int64 ↔ type.bare.lastName? = some "i64" := by
  unfold declared
  cases type.bare.lastName? with
  | none => simp
  | some name =>
    simp only [Option.some.injEq]
    constructor
    · unfold declaredOfName
      split
      · next plain found =>
        intro same
        have named := List.find?_some found
        simp only [beq_iff_eq] at named
        have member := List.mem_of_find?_eq_some found
        simp only [plainTypes, IntType.all, IntType.name, List.map_cons, List.map_nil,
          List.cons_append, List.nil_append, List.mem_cons, List.not_mem_nil, or_false] at member
        rcases member with h | h | h | h | h | h | h | h | h | h | h | h <;> simp_all
      · repeat' split
        all_goals simp
    · rintro rfl
      rfl

namespace Derive

namespace Candidate

/-- A field can be the identity: it asks for nothing else, its name is not raw, and its type is one
of 64 bits with a sign. -/
structure FitsIdentity (candidate : Candidate) : Prop where
  alone : candidate.attributes.unfitForIdentity = false
  notRaw : isRaw candidate.field.name = false
  type : candidate.field.type.bare.lastName? = some "i64"

instance (candidate : Candidate) : Decidable candidate.FitsIdentity :=
  decidable_of_iff (candidate.attributes.unfitForIdentity = false ∧
      isRaw candidate.field.name = false ∧ candidate.field.type.bare.lastName? = some "i64")
    ⟨fun ⟨alone, notRaw, type⟩ => ⟨alone, notRaw, type⟩,
      fun fits => ⟨fits.alone, fits.notRaw, fits.type⟩⟩

theorem checkIdentity_eq_ok_iff {candidate : Candidate} :
    candidate.checkIdentity = .ok () ↔ candidate.FitsIdentity := by
  simp only [checkIdentity, refuse]
  constructor
  · intro passed
    split at passed
    · cases passed
    · next alone =>
      split at passed
      · cases passed
      · next notRaw =>
        split at passed
        · next typed =>
          exact ⟨eq_false_of_ne_true alone, eq_false_of_ne_true notRaw,
            (TypeExpr.declared_eq_int64_iff _).mp typed⟩
        · cases passed
  · rintro ⟨alone, notRaw, type⟩
    simp [alone, notRaw, (TypeExpr.declared_eq_int64_iff _).mpr type]

/-- Whether a field is marked as the identity. -/
def IsMarked (candidate : Candidate) : Prop := candidate.attributes.identity = true

instance (candidate : Candidate) : Decidable candidate.IsMarked :=
  inferInstanceAs (Decidable (_ = _))

/-- A field asks for one relation at most. -/
def OneRelation (candidate : Candidate) : Prop :=
  ¬ (candidate.attributes.oneToOne = true ∧ candidate.attributes.oneToMany = true)

/-- What a field must fulfil by itself. -/
structure Suits (candidate : Candidate) : Prop where
  identity : candidate.IsMarked → candidate.FitsIdentity
  relation : ¬ candidate.IsMarked → candidate.OneRelation

theorem check_eq_ok_iff {candidate : Candidate} {marked : Bool} :
    candidate.check marked = .ok () ↔
      candidate.Suits ∧ (marked = true → ¬ candidate.IsMarked) := by
  simp only [check, refuse]
  split
  · next asked =>
    cases marked with
    | true => simp [IsMarked, asked]
    | false =>
      simp only [Bool.false_eq_true, if_false, false_implies, and_true, checkIdentity_eq_ok_iff]
      exact ⟨fun fits => ⟨fun _ => fits, fun unmarked => absurd asked unmarked⟩,
        fun suits => suits.identity asked⟩
  · next unmarked =>
    split
    · next both =>
      refine ⟨nofun, fun suits => ?_⟩
      exact absurd ((Bool.and_eq_true _ _).mp both) (suits.1.relation unmarked)
    · next single =>
      refine ⟨fun _ => ⟨⟨fun asked => absurd asked unmarked, fun _ both => ?_⟩, fun _ => unmarked⟩,
        fun _ => rfl⟩
      exact single ((Bool.and_eq_true _ _).mpr both)

end Candidate

/-! ## All fields -/

/-- A field with what its attributes ask for. -/
def attributed (field : Field) : Except Fault Candidate := do
  return ⟨field, ← fieldAttributes field.attributes⟩

/-- All fields pass their checks if their attributes are well formed, each suits by itself, and one at
most is marked. -/
theorem candidates_eq_ok_iff {marked : Bool} {fields : List Field} {found : List Candidate} :
    candidates marked fields = .ok found ↔
      fields.mapM attributed = .ok found ∧ (∀ candidate ∈ found, candidate.Suits) ∧
        found.Pairwise (fun first second => first.IsMarked → ¬ second.IsMarked) ∧
        (marked = true → ∀ candidate ∈ found, ¬ candidate.IsMarked) := by
  induction fields generalizing marked found with
  | nil =>
    rw [candidates, List.mapM_nil]
    constructor
    · rintro ⟨⟩
      exact ⟨rfl, List.forall_mem_nil _, .nil, fun _ => List.forall_mem_nil _⟩
    · rintro ⟨same, -⟩
      cases same
      rfl
  | cons field rest ih =>
    rw [candidates, bind_eq_ok_iff, List.mapM_cons, bind_eq_ok_iff]
    constructor
    · rintro ⟨attributes, parsed, looked⟩
      obtain ⟨_, checked, looked⟩ := bind_eq_ok_iff.mp looked
      obtain ⟨others, behind, made⟩ := bind_eq_ok_iff.mp looked
      cases made
      obtain ⟨suits, first⟩ := Candidate.check_eq_ok_iff.mp checked
      obtain ⟨all, suit, single, later⟩ := ih.mp behind
      refine ⟨⟨_, bind_eq_ok_iff.mpr ⟨_, parsed, rfl⟩, bind_eq_ok_iff.mpr ⟨_, all, rfl⟩⟩,
        List.forall_mem_cons.mpr ⟨suits, suit⟩, List.pairwise_cons.mpr ⟨?_, single⟩, ?_⟩
      · intro other member asked
        exact later ((Bool.or_eq_true _ _).mpr (.inr asked)) other member
      · intro before
        exact List.forall_mem_cons.mpr
          ⟨first before, later ((Bool.or_eq_true _ _).mpr (.inl before))⟩
    · rintro ⟨⟨candidate, one, both⟩, suits, single, later⟩
      obtain ⟨attributes, parsed, made⟩ := bind_eq_ok_iff.mp one
      cases made
      obtain ⟨others, all, made⟩ := bind_eq_ok_iff.mp both
      cases made
      obtain ⟨first, suits⟩ := List.forall_mem_cons.mp suits
      obtain ⟨ahead, single⟩ := List.pairwise_cons.mp single
      refine ⟨attributes, parsed, bind_eq_ok_iff.mpr ⟨(), Candidate.check_eq_ok_iff.mpr ⟨first,
        fun before => later before _ List.mem_cons_self⟩, bind_eq_ok_iff.mpr ⟨others, ?_, rfl⟩⟩⟩
      refine ih.mpr ⟨all, suits, single, fun before other member => ?_⟩
      rcases (Bool.or_eq_true _ _).mp before with earlier | asked
      · exact later earlier other (List.mem_cons_of_mem _ member)
      · exact ahead other member asked

/-! ## The identity -/

/-- The field that is the identity, and the others in their order: the one that is marked or, where
none is, the last one named `id`. -/
inductive Elects : List Candidate → Candidate → List Candidate → Prop
  | marked {before after : List Candidate} {identity : Candidate} (marked : identity.IsMarked)
      (others : ∀ other ∈ before ++ after, ¬ other.IsMarked) :
      Elects (before ++ identity :: after) identity (before ++ after)
  | named {before after : List Candidate} {identity : Candidate}
      (unmarked : ∀ candidate ∈ before ++ identity :: after, ¬ candidate.IsMarked)
      (named : identity.field.name = "id") (last : ∀ later ∈ after, later.field.name ≠ "id") :
      Elects (before ++ identity :: after) identity (before ++ after)

section Elects

variable {found others : List Candidate} {identity : Candidate}

/-- At most one field is marked in a list that elects one, or its last one by name. -/
theorem Elects.single (elects : Elects found identity others) :
    found.Pairwise fun first second => first.IsMarked → ¬ second.IsMarked := by
  cases elects with
  | @marked before after _ _ unmarked =>
    obtain ⟨ahead, behind⟩ := List.forall_mem_append.mp unmarked
    refine List.pairwise_append.mpr ⟨?_, List.pairwise_cons.mpr ⟨?_, ?_⟩, ?_⟩
    · exact List.pairwise_of_forall_mem_list fun first member _ _ asked =>
        absurd asked (ahead first member)
    · exact fun second member _ => behind second member
    · exact List.pairwise_of_forall_mem_list fun first member _ _ asked =>
        absurd asked (behind first member)
    · exact fun first member _ _ asked => absurd asked (ahead first member)
  | @named before after _ unmarked _ _ =>
    exact List.pairwise_of_forall_mem_list fun first member second _ asked =>
      absurd asked (unmarked first member)

/-- The last of the members of a list that pass a test. -/
theorem exists_last {α : Type} (test : α → Prop) [DecidablePred test] {list : List α}
    (some : ∃ a ∈ list, test a) :
    ∃ before last after, list = before ++ last :: after ∧ test last ∧ ∀ a ∈ after, ¬ test a := by
  have found : (list.reverse.find? fun a => decide (test a)).isSome = true := by
    simpa using some
  obtain ⟨last, found⟩ := Option.isSome_iff_exists.mp found
  obtain ⟨passes, after, before, split, others⟩ := List.find?_eq_some_iff_append.mp found
  refine ⟨before.reverse, last, after.reverse, ?_, of_decide_eq_true passes, ?_⟩
  · rw [← List.reverse_reverse list, split]
    simp
  · simpa using others

/-- A field is elected if one is marked at most, and one is marked or named `id`. -/
theorem exists_elects
    (single : found.Pairwise fun first second => first.IsMarked → ¬ second.IsMarked)
    (some : ∃ candidate ∈ found, candidate.IsMarked ∨ candidate.field.name = "id") :
    ∃ identity others, Elects found identity others := by
  by_cases marked : ∃ candidate ∈ found, candidate.IsMarked
  · obtain ⟨before, last, after, rfl, asked, behind⟩ := exists_last Candidate.IsMarked marked
    obtain ⟨-, -, apart⟩ := List.pairwise_append.mp single
    refine ⟨last, before ++ after, .marked asked (List.forall_mem_append.mpr ⟨?_, behind⟩)⟩
    exact fun first member earlier => apart first member last List.mem_cons_self earlier asked
  · have unmarked : ∀ candidate ∈ found, ¬ candidate.IsMarked :=
      fun candidate member asked => marked ⟨candidate, member, asked⟩
    obtain ⟨candidate, member, named⟩ := some
    have byName := named.resolve_left (unmarked candidate member)
    obtain ⟨before, last, after, rfl, named, behind⟩ :=
      exists_last (fun candidate : Candidate => candidate.field.name = "id")
        ⟨candidate, member, byName⟩
    exact ⟨last, before ++ after, .named unmarked named behind⟩

theorem eraseLast_append {α : Type} {test : α → Bool} {before after : List α} {last : α}
    (passes : test last = true) (others : ∀ a ∈ after, test a = false) :
    eraseLast test (before ++ last :: after) = before ++ after := by
  unfold eraseLast
  rw [List.reverse_append, List.reverse_cons, List.append_assoc,
    List.eraseP_append_right _ (by simpa using others), List.singleton_append,
    List.eraseP_cons_of_pos passes]
  simp

/-- The elected field is the identity; one that is not marked is checked only now. -/
theorem splitIdentity_of_elects (elects : Elects found identity others) (item : Item) :
    splitIdentity item found =
      if identity.IsMarked then .ok (identity.field.name, others)
      else do
        identity.checkIdentity
        return (identity.field.name, others) := by
  unfold splitIdentity
  cases elects with
  | @marked before after _ marked unmarked =>
    have asked : identity.attributes.identity = true := marked
    have ahead := (List.forall_mem_append.mp unmarked).1
    have found : (before ++ identity :: after).find? (fun candidate =>
        candidate.attributes.identity) = some identity := by
      rw [List.find?_append, List.find?_eq_none.mpr ahead, Option.none_or]
      exact List.find?_cons_of_pos asked
    have left : (before ++ identity :: after).filter (fun candidate =>
        !candidate.attributes.identity) = before ++ after := by
      rw [List.filter_append, List.filter_cons_of_neg (by simpa using asked), ← List.filter_append]
      exact List.filter_eq_self.mpr fun other member =>
        (Bool.not_eq_true' _).mpr (eq_false_of_ne_true (unmarked other member))
    rw [found, left, if_pos marked]
  | @named before after _ unmarked named last =>
    have test : identity.isNamedId = true := beq_iff_eq.mpr named
    have others : ∀ later ∈ after, later.isNamedId = false :=
      fun later member => beq_false_of_ne (last later member)
    have none : (before ++ identity :: after).find? (fun candidate =>
        candidate.attributes.identity) = none := List.find?_eq_none.mpr unmarked
    have found : (before ++ identity :: after).reverse.find? Candidate.isNamedId =
        some identity := by
      rw [List.reverse_append, List.reverse_cons, List.append_assoc, List.find?_append,
        List.find?_eq_none.mpr (by simpa using others), Option.none_or, List.singleton_append,
        List.find?_cons_of_pos test]
    rw [none, found, if_neg (unmarked identity (by simp))]
    simp only [eraseLast_append test others]

/-- What holds of all fields holds of the elected one and of the others. -/
theorem Elects.forall_mem_iff (elects : Elects found identity others) {holds : Candidate → Prop} :
    (∀ candidate ∈ found, holds candidate) ↔ holds identity ∧ ∀ other ∈ others, holds other := by
  cases elects <;> simp only [List.forall_mem_append, List.forall_mem_cons] <;> tauto

theorem Elects.mem (elects : Elects found identity others) : identity ∈ found :=
  (elects.forall_mem_iff.mp fun _ member => member).1

theorem Elects.unmarked (elects : Elects found identity others) :
    ∀ other ∈ others, ¬ other.IsMarked := by
  cases elects with
  | marked _ unmarked => exact unmarked
  | named unmarked =>
    intro other member
    refine unmarked other ?_
    rw [List.mem_append] at member
    exact List.mem_append.mpr (member.imp_right (List.mem_cons_of_mem _))

/-- Fields that suit, one of them marked at most, are split if one of them is elected and can be the
identity. -/
theorem splitIdentity_eq_ok_iff (suits : ∀ candidate ∈ found, candidate.Suits)
    (single : found.Pairwise fun first second => first.IsMarked → ¬ second.IsMarked)
    {item : Item} {name : String} :
    splitIdentity item found = .ok (name, others) ↔
      ∃ identity, Elects found identity others ∧ identity.FitsIdentity ∧
        identity.field.name = name := by
  constructor
  · intro split
    by_cases some : ∃ candidate ∈ found, candidate.IsMarked ∨ candidate.field.name = "id"
    · obtain ⟨identity, left, elects⟩ := exists_elects single some
      rw [splitIdentity_of_elects elects] at split
      by_cases marked : identity.IsMarked
      · rw [if_pos marked] at split
        cases split
        exact ⟨identity, elects, (suits identity elects.mem).identity marked, rfl⟩
      · rw [if_neg marked, bind_eq_ok_iff] at split
        obtain ⟨_, checked, made⟩ := split
        cases made
        exact ⟨identity, elects, Candidate.checkIdentity_eq_ok_iff.mp checked, rfl⟩
    · have neither : ∀ candidate ∈ found,
          ¬ candidate.IsMarked ∧ ¬ candidate.isNamedId = true := by
        intro candidate member
        exact ⟨fun asked => some ⟨candidate, member, .inl asked⟩,
          fun named => some ⟨candidate, member, .inr (beq_iff_eq.mp named)⟩⟩
      have marked : found.find? (fun candidate => candidate.attributes.identity) = none :=
        List.find?_eq_none.mpr fun candidate member => (neither candidate member).1
      have named : found.reverse.find? Candidate.isNamedId = none :=
        List.find?_eq_none.mpr fun candidate member =>
          (neither candidate (List.mem_reverse.mp member)).2
      rw [splitIdentity, marked] at split
      simp only [named, refuse, reduceCtorEq] at split
  · rintro ⟨identity, elects, fits, rfl⟩
    rw [splitIdentity_of_elects elects, Candidate.checkIdentity_eq_ok_iff.mpr fits]
    split <;> rfl

end Elects

end Derive

end EntityTables
