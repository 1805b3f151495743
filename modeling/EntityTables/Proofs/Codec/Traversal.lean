/-
# EntityTables.Proofs.Codec.Traversal — equal objects and the order in which they are traversed

Two sets are equal if they have the same members, and two maps if they have the same entries. A tree
that is equal to another is the same list, since both ascend. A hashed set or map is a list in the
order of its traversal, which is no part of its value, and its bytes follow that order. So equal
values have the same bytes if their traversals are in step, and where a value is read back from its
bytes, only then.

* `JsonForm.IsFormed` — the types that there are; `IsOrdered` — those whose values can be in a set.
* `JsonForm.Equal` — equal values; `JsonForm.InStep` — values that are traversed alike.
* `JsonForm.Equal.hashSet_of_perm`, `hashMap_of_perm` — a hashed one in any other order.
* `JsonForm.Equal.eq_of_inStep` — equal values in step are the same lists throughout.
* `JsonForm.Equal.serialize_eq`, `inStep_of_serialize` — and so have the same bytes.
* `FieldValues.serialize_eq`, `inStep_of_serialize` — the same of structures.
-/
import EntityTables.Proofs.Binary.Number
import EntityTables.Proofs.Codec.Inversion
import Mathlib.Data.List.Sort

namespace EntityTables

set_option autoImplicit false

/-! ## Lists with the same members -/

/-- Every member of either list has its like in the other. -/
def Matched {α β : Type} (Like : α → β → Prop) (as : List α) (bs : List β) : Prop :=
  (∀ a ∈ as, ∃ b ∈ bs, Like a b) ∧ ∀ b ∈ bs, ∃ a ∈ as, Like a b

namespace Matched

variable {α β : Type} {as : List α} {bs : List β}

theorem imp {R S : α → β → Prop} (step : ∀ a ∈ as, ∀ b ∈ bs, R a b → S a b)
    (matched : Matched R as bs) : Matched S as bs := by
  obtain ⟨there, back⟩ := matched
  constructor
  · intro a member
    obtain ⟨b, among, like⟩ := there a member
    exact ⟨b, among, step a member b among like⟩
  · intro b member
    obtain ⟨a, among, like⟩ := back b member
    exact ⟨a, among, step a among b member like⟩

/-- A list is matched with itself in any order. -/
theorem of_perm {Like : α → α → Prop} (self : ∀ a, Like a a) {as bs : List α}
    (order : as.Perm bs) : Matched Like as bs :=
  ⟨fun a member => ⟨a, order.mem_iff.mp member, self a⟩,
    fun b member => ⟨b, order.mem_iff.mpr member, self b⟩⟩

theorem mem_iff {as bs : List α} (matched : Matched Eq as bs) (a : α) : a ∈ as ↔ a ∈ bs := by
  constructor
  · intro member
    obtain ⟨b, among, rfl⟩ := matched.1 a member
    exact among
  · intro member
    obtain ⟨b, among, rfl⟩ := matched.2 a member
    exact among

/-- Lists that ascend by the keys of their members are told apart by their members. -/
theorem eq_of_ascending {κ : Type} {order : κ → κ → Ordering} [Std.OrientedCmp order]
    (key : α → κ) {as bs : List α} (left : as.Pairwise fun a b => order (key a) (key b) = .lt)
    (right : bs.Pairwise fun a b => order (key a) (key b) = .lt) (matched : Matched Eq as bs) :
    as = bs := by
  have irreflexive : Std.Irrefl fun a b : α => order (key a) (key b) = .lt :=
    ⟨fun a same => Ordering.noConfusion (Std.ReflCmp.compare_self.symm.trans same)⟩
  have antisymmetric : Std.Antisymm fun a b : α => order (key a) (key b) = .lt :=
    ⟨fun a b before behind => by
      rw [Std.OrientedCmp.gt_of_lt before] at behind
      cases behind⟩
  exact left.eq_of_mem_iff right matched.mem_iff

/-- In maps with the same entries, the entries of one key are alike. -/
theorem entry {κ υ : Type} {Like : υ → υ → Prop} {as bs : List (κ × υ)}
    (matched : Matched (fun x y => x.1 = y.1 ∧ Like x.2 y.2) as bs)
    (distinct : (bs.map Prod.fst).Nodup) {x y : κ × υ} (left : x ∈ as) (right : y ∈ bs)
    (key : x.1 = y.1) : Like x.2 y.2 := by
  obtain ⟨other, among, same, like⟩ := matched.1 x left
  rwa [← List.inj_on_of_nodup_map distinct among right (same.symm.trans key)]

end Matched

variable {ι : Type} [IntegerTypes ι]

/-! ## Equal values -/

namespace JsonForm

/-- A type with an order and a hash, whose values can be in a set: nothing in it is a number with a
point, and nothing is hashed itself. -/
def IsOrdered : JsonForm ι → Prop
  | text | boolean | integer _ => True
  | double | hashSet _ | hashMap _ _ => False
  | option element | vector element | deque element | treeSet element => element.IsOrdered
  | treeMap _ value => value.IsOrdered

/-- A type that there is: the members of its sets have an order and a hash. -/
def IsFormed : JsonForm ι → Prop
  | text | boolean | integer _ | double => True
  | option element | vector element | deque element => element.IsFormed
  | treeSet element | hashSet element => element.IsOrdered
  | treeMap _ value | hashMap _ value => value.IsFormed

/-- The same value: the same sequence, the same members, the same entries. What is no number is the
same as itself, and the zeros of both signs are the same. -/
def Same : (type : JsonForm ι) → type.Carrier → type.Carrier → Prop
  | text, a, b | boolean, a, b | integer _, a, b => a = b
  | double, x, y => x = y ∨ x.Equals y
  | option element, a?, b? => Option.Rel element.Same a? b?
  | vector element, as, bs | deque element, as, bs => List.Forall₂ element.Same as bs
  | treeSet element, as, bs | hashSet element, as, bs => Matched element.Same as bs
  | treeMap _ value, as, bs | hashMap _ value, as, bs =>
    Matched (fun x y => x.1 = y.1 ∧ value.Same x.2 y.2) as bs

/-- The parts of two equal values come in the same order: hashed sets and maps are traversed alike
wherever they are, and zeros have the same sign. -/
def InStep : (type : JsonForm ι) → type.Carrier → type.Carrier → Prop
  | text, _, _ | boolean, _, _ | integer _, _, _ | treeSet _, _, _ => True
  | double, x, y => x = y
  | option element, a?, b? => ∀ a ∈ a?, ∀ b ∈ b?, element.InStep a b
  | vector element, as, bs | deque element, as, bs => List.Forall₂ element.InStep as bs
  | hashSet _, as, bs => as = bs
  | treeMap _ value, as, bs => ∀ x ∈ as, ∀ y ∈ bs, x.1 = y.1 → value.InStep x.2 y.2
  | hashMap _ value, as, bs =>
    as.map Prod.fst = bs.map Prod.fst ∧ ∀ x ∈ as, ∀ y ∈ bs, x.1 = y.1 → value.InStep x.2 y.2

/-- Two equal values that a type can have. -/
structure Equal (type : JsonForm ι) (a b : type.Carrier) : Prop where
  left : type.IsValue a
  right : type.IsValue b
  same : type.Same a b

omit [IntegerTypes ι] in
theorem IsOrdered.isFormed {type : JsonForm ι} (ordered : type.IsOrdered) : type.IsFormed := by
  induction type with
  | text | boolean | integer type => trivial
  | double | hashSet element ih | hashMap key value ih => cases ordered
  | option element ih | vector element ih | deque element ih => exact ih ordered
  | treeSet element ih => exact ordered
  | treeMap key value ih => exact ih ordered

theorem keys_nodup {key : KeyForm ι} {value : JsonForm ι}
    {entries : List (key.Carrier × value.Carrier)}
    (ascending : entries.Pairwise fun x y => key.order x.1 y.1 = .lt) :
    (entries.map Prod.fst).Nodup := by
  refine List.pairwise_map.mpr (ascending.imp ?_)
  intro x y before same
  rw [same] at before
  cases (show key.order y.1 y.1 = .eq from Std.ReflCmp.compare_self).symm.trans before

/-- Values with an order are always in step. -/
theorem Equal.inStep_of_isOrdered {type : JsonForm ι} (ordered : type.IsOrdered)
    {a b : type.Carrier} (equal : type.Equal a b) : type.InStep a b := by
  induction type with
  | text | boolean | integer type | treeSet element ih => trivial
  | double | hashSet element ih | hashMap key value ih => cases ordered
  | option element ih =>
    intro c left d right
    cases left
    cases right
    cases equal.same with
    | some same => exact ih ordered ⟨equal.left c rfl, equal.right d rfl, same⟩
  | vector element ih | deque element ih =>
    refine List.forall₂_iff_get.mpr ⟨equal.same.length_eq, fun i low high => ?_⟩
    exact ih ordered ⟨equal.left _ (List.get_mem _ _), equal.right _ (List.get_mem _ _),
      equal.same.get low high⟩
  | treeMap key value ih =>
    intro x left y right same
    exact ih ordered ⟨equal.left.1 x left, equal.right.1 y right,
      equal.same.entry (keys_nodup equal.right.2) left right same⟩

theorem same_self (type : JsonForm ι) (a : type.Carrier) : type.Same a a := by
  induction type with
  | text | boolean | integer type => rfl
  | double => exact .inl rfl
  | option element ih =>
    cases a with
    | none => exact .none
    | some a => exact .some (ih a)
  | vector element ih | deque element ih => exact List.forall₂_same.mpr fun c _ => ih c
  | treeSet element ih | hashSet element ih => exact .of_perm ih (.refl a)
  | treeMap key value ih | hashMap key value ih => exact .of_perm (fun x => ⟨rfl, ih x.2⟩) (.refl a)

theorem Equal.self {type : JsonForm ι} {a : type.Carrier} (is : type.IsValue a) : type.Equal a a :=
  ⟨is, is, type.same_self a⟩

/-- A hashed set is the same in any order. -/
theorem Equal.hashSet_of_perm {element : JsonForm ι} {as bs : List element.Carrier}
    (is : (hashSet element).IsValue as) (order : as.Perm bs) : (hashSet element).Equal as bs where
  left := is
  right := ⟨fun b member => is.1 b (order.mem_iff.mpr member), order.nodup is.2⟩
  same := .of_perm element.same_self order

/-- A hashed map is the same in any order. -/
theorem Equal.hashMap_of_perm {key : KeyForm ι} {value : JsonForm ι}
    {as bs : List (key.Carrier × value.Carrier)} (is : (hashMap key value).IsValue as)
    (order : as.Perm bs) : (hashMap key value).Equal as bs where
  left := is
  right := ⟨fun y member => is.1 y (order.mem_iff.mpr member), (order.map Prod.fst).nodup is.2⟩
  same := .of_perm (fun x => ⟨rfl, value.same_self x.2⟩) order

theorem inStep_self {type : JsonForm ι} {a : type.Carrier} (is : type.IsValue a) :
    type.InStep a a := by
  induction type with
  | text | boolean | integer type | treeSet element ih => trivial
  | double => rfl
  | hashSet element ih => rfl
  | option element ih =>
    intro c left d right
    cases left.symm.trans right
    exact ih (is c left)
  | vector element ih | deque element ih =>
    exact List.forall₂_same.mpr fun c member => ih (is c member)
  | treeMap key value ih =>
    intro x left y right same
    obtain rfl := List.inj_on_of_nodup_map (keys_nodup is.2) left right same
    exact ih (is.1 x left)
  | hashMap key value ih =>
    refine ⟨rfl, fun x left y right same => ?_⟩
    obtain rfl := List.inj_on_of_nodup_map is.2 left right same
    exact ih (is.1 x left)

/-- Equal values in step are the same throughout. -/
theorem Equal.eq_of_inStep {type : JsonForm ι} (formed : type.IsFormed) {a b : type.Carrier}
    (equal : type.Equal a b) (step : type.InStep a b) : a = b := by
  induction type with
  | text | boolean | integer type => exact equal.same
  | double | hashSet element ih => exact step
  | option element ih =>
    obtain ⟨left, right, same⟩ := equal
    cases same with
    | none => rfl
    | some same =>
      exact congrArg some (ih formed ⟨left _ rfl, right _ rfl, same⟩ (step _ rfl _ rfl))
  | vector element ih | deque element ih =>
    refine List.ext_get equal.same.length_eq fun i low high => ?_
    exact ih formed ⟨equal.left _ (List.get_mem _ _), equal.right _ (List.get_mem _ _),
      equal.same.get low high⟩ (step.get low high)
  | treeSet element ih =>
    refine Matched.eq_of_ascending id equal.left.2 equal.right.2 (equal.same.imp ?_)
    intro c left d right same
    -- members are ordered, so nothing in them can be out of step
    have within : element.Equal c d := ⟨equal.left.1 c left, equal.right.1 d right, same⟩
    exact ih (IsOrdered.isFormed formed) within (within.inStep_of_isOrdered formed)
  | treeMap key value ih =>
    refine Matched.eq_of_ascending Prod.fst equal.left.2 equal.right.2 (equal.same.imp ?_)
    rintro x left y right ⟨same, within⟩
    exact Prod.ext same (ih formed ⟨equal.left.1 x left, equal.right.1 y right, within⟩
      (step x left y right same))
  | hashMap key value ih =>
    have keys := congrArg List.length step.1
    rw [List.length_map, List.length_map] at keys
    refine List.ext_get keys fun i low high => ?_
    have same : (a.get ⟨i, low⟩).1 = (b.get ⟨i, high⟩).1 := by
      have here := congrArg (·[i]?) step.1
      simpa [low, high] using here
    have left := List.get_mem a ⟨i, low⟩
    have right := List.get_mem b ⟨i, high⟩
    have within := equal.same.entry equal.right.2 left right same
    exact Prod.ext same (ih formed ⟨equal.left.1 _ left, equal.right.1 _ right, within⟩
      (step.2 _ left _ right same))

end JsonForm

/-! ## Equal bytes -/

/-- Plain values with the same text are the same. -/
theorem Json.IsPlain.eq_of_encode {json other : Json} (plain : json.IsPlain) (also : other.IsPlain)
    (same : Utf8.encode json.chars = Utf8.encode other.chars) : json = other := by
  have read := congrArg (fun bytes => Json.ofScan? (Utf8.scan bytes)) same
  simpa only [Utf8.scan_encode, plain.ofScan?, also.ofScan?, Option.some.injEq] using read

/-- Objects with the same bytes have the same JSON, if it is plain. -/
theorem toJson_eq_of_serialize {α : Type} {typeName : String} {toJson : α → Json}
    {ofJson? : Json → Option α} {a b : α}
    (same : (jsonCodec typeName toJson ofJson?).serialize a =
      (jsonCodec typeName toJson ofJson?).serialize b)
    (plain : (toJson a).IsPlain) (also : (toJson b).IsPlain) : toJson a = toJson b := by
  obtain ⟨-, framed⟩ := List.cons.inj (Except.ok.inj same)
  exact plain.eq_of_encode also (List.cons.inj framed).2

namespace JsonForm

variable {type : JsonForm ι} {a b : type.Carrier}

theorem eq_of_toJson (invertible : type.IsInvertible) (left : type.IsValue a)
    (right : type.IsValue b) (same : type.toJson a = type.toJson b) : a = b := by
  have read := ofJson?_toJson invertible left
  rw [same, ofJson?_toJson invertible right] at read
  exact (Option.some.inj read).symm

/-- Equal values in step have the same bytes. -/
theorem Equal.serialize_eq (equal : type.Equal a b) (formed : type.IsFormed)
    (step : type.InStep a b) : type.codec.serialize a = type.codec.serialize b :=
  congrArg type.codec.serialize (equal.eq_of_inStep formed step)

/-- Of values that can be read back no two have the same bytes, so each order in which a hashed set
or map is traversed has its own. -/
theorem serialize_eq_iff (invertible : type.IsInvertible) (left : type.IsValue a)
    (right : type.IsValue b) : type.codec.serialize a = type.codec.serialize b ↔ a = b := by
  constructor
  · intro same
    have json :=
      toJson_eq_of_serialize same (isPlain_toJson invertible a) (isPlain_toJson invertible b)
    exact eq_of_toJson invertible left right json
  · rintro rfl
    rfl

/-- Equal values that can be read back have the same bytes only in step. -/
theorem Equal.inStep_of_serialize (equal : type.Equal a b) (invertible : type.IsInvertible)
    (same : type.codec.serialize a = type.codec.serialize b) : type.InStep a b :=
  (serialize_eq_iff invertible equal.left equal.right).mp same ▸ inStep_self equal.left

end JsonForm

/-- Different members make different objects. -/
theorem Json.record_injective : Function.Injective Json.record := by
  intro members others same
  refine List.map_injective_iff.mpr ?_ (Json.object.inj same)
  rintro ⟨key, json⟩ ⟨other, value⟩ same
  obtain ⟨texts, rfl⟩ := Prod.ext_iff.mp same
  exact Prod.ext (Option.some.inj (congrArg JsonKey.text? texts)) rfl

namespace FieldValues

variable {fields : List (String × JsonForm ι)} {as bs : FieldValues fields}

/-- A relation holds of each field's two values. -/
def Related (R : (type : JsonForm ι) → type.Carrier → type.Carrier → Prop) :
    (fields : List (String × JsonForm ι)) → FieldValues fields → FieldValues fields → Prop
  | [], (), () => True
  | (_, type) :: rest, (a, as), (b, bs) => R type a b ∧ Related R rest as bs

/-- Structures whose fields are equal and in step are the same throughout. -/
theorem eq_of_inStep (formed : ∀ field ∈ fields, field.2.IsFormed)
    (equal : Related JsonForm.Equal fields as bs) (step : Related JsonForm.InStep fields as bs) :
    as = bs := by
  induction fields with
  | nil => rfl
  | cons field rest ih =>
    obtain ⟨here, behind⟩ := List.forall_mem_cons.mp formed
    exact Prod.ext (equal.1.eq_of_inStep here step.1) (ih behind equal.2 step.2)

/-- Structures whose fields have an order are always in step. -/
theorem inStep_of_isOrdered (ordered : ∀ field ∈ fields, field.2.IsOrdered)
    (equal : Related JsonForm.Equal fields as bs) : Related JsonForm.InStep fields as bs := by
  induction fields with
  | nil => trivial
  | cons field rest ih =>
    obtain ⟨here, behind⟩ := List.forall_mem_cons.mp ordered
    exact ⟨equal.1.inStep_of_isOrdered here, ih behind equal.2⟩

theorem isPlain_members (invertible : ∀ field ∈ fields, field.2.IsInvertible)
    (as : FieldValues fields) : ∀ member ∈ members fields as, member.2.IsPlain := by
  induction fields with
  | nil => exact List.forall_mem_nil _
  | cons field rest ih =>
    obtain ⟨here, behind⟩ := List.forall_mem_cons.mp invertible
    exact List.forall_mem_cons.mpr ⟨JsonForm.isPlain_toJson here as.1, ih behind as.2⟩

theorem inStep_of_members (invertible : ∀ field ∈ fields, field.2.IsInvertible)
    (equal : Related JsonForm.Equal fields as bs) (same : members fields as = members fields bs) :
    Related JsonForm.InStep fields as bs := by
  induction fields with
  | nil => trivial
  | cons field rest ih =>
    obtain ⟨here, behind⟩ := List.forall_mem_cons.mp invertible
    obtain ⟨first, others⟩ := List.cons.inj same
    have value := JsonForm.eq_of_toJson here equal.1.left equal.1.right (Prod.ext_iff.mp first).2
    exact ⟨value ▸ JsonForm.inStep_self equal.1.left, ih behind equal.2 others⟩

/-- Structures have the same bytes if their fields are equal and in step. -/
theorem serialize_eq (typeName : String) (formed : ∀ field ∈ fields, field.2.IsFormed)
    (equal : Related JsonForm.Equal fields as bs) (step : Related JsonForm.InStep fields as bs) :
    (structureCodec typeName fields).serialize as = (structureCodec typeName fields).serialize bs :=
  congrArg (structureCodec typeName fields).serialize (eq_of_inStep formed equal step)

/-- Structures whose fields are equal and can be read back have the same bytes only in step. -/
theorem inStep_of_serialize {typeName : String}
    (invertible : ∀ field ∈ fields, field.2.IsInvertible)
    (equal : Related JsonForm.Equal fields as bs)
    (same : (structureCodec typeName fields).serialize as =
      (structureCodec typeName fields).serialize bs) : Related JsonForm.InStep fields as bs := by
  unfold structureCodec at same
  have json := toJson_eq_of_serialize same (.record (isPlain_members invertible as))
    (.record (isPlain_members invertible bs))
  exact inStep_of_members invertible equal (Json.record_injective json)

end FieldValues

end EntityTables
