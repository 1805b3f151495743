/-
# EntityTables.Proofs.Codec.Collections — collections made of their own members

The order of a type is oriented, and it finds no two values equal but a value and itself. So a list
that is a set or a map already is the set or the map that is made of its members one by one: each of
them goes to the end.

* `JsonForm.oriented_order`, `JsonForm.lawful_order` — what the proofs need of an order.
* `treeSetOf_ascending`, `hashSetOf_nodup`, `treeMapOf_ascending`, `hashMapOf_nodup` — the list that
  comes back.
-/
import EntityTables.Codec.JsonType
import Mathlib.Order.Compare

namespace EntityTables

set_option autoImplicit false

/-! ## Orders -/

theorem compareLists_eq {α : Type} (order : α → α → Ordering) :
    compareLists order = List.compareLex order := by
  funext as bs
  induction as generalizing bs with
  | nil => cases bs <;> rfl
  | cons a as ih =>
    cases bs with
    | nil => rfl
    | cons b bs =>
      rw [compareLists, ih, List.compareLex_cons_cons]

section

variable {α β : Type} (first : α → α → Ordering) (second : β → β → Ordering)

/-- Pairs in the order of their first parts, then of their second ones. -/
theorem oriented_pairs [Std.OrientedCmp first] [Std.OrientedCmp second] :
    Std.OrientedCmp fun x y : α × β => (first x.1 y.1).then (second x.2 y.2) where
  eq_swap {x y} := by
    rw [Ordering.swap_then, ← Std.OrientedCmp.eq_swap, ← Std.OrientedCmp.eq_swap]

theorem lawful_pairs [Std.LawfulEqCmp first] [Std.LawfulEqCmp second] :
    Std.LawfulEqCmp fun x y : α × β => (first x.1 y.1).then (second x.2 y.2) where
  compare_self := by simp
  eq_of_compare {x y} same := by
    obtain ⟨left, right⟩ := Ordering.then_eq_eq.mp same
    exact Prod.ext (Std.LawfulEqCmp.eq_of_compare left) (Std.LawfulEqCmp.eq_of_compare right)

end

/-- Values in the order of numbers that tell them apart. -/
theorem oriented_numbers {α ν : Type} [Ord ν] [Std.OrientedOrd ν] (number : α → ν) :
    Std.OrientedCmp fun a b => compare (number a) (number b) where
  eq_swap := Std.OrientedCmp.eq_swap

theorem lawful_numbers {α ν : Type} [Ord ν] [Std.LawfulEqOrd ν] {number : α → ν}
    (apart : Function.Injective number) :
    Std.LawfulEqCmp fun a b => compare (number a) (number b) where
  compare_self := Std.ReflCmp.compare_self
  eq_of_compare same := apart (Std.LawfulEqCmp.eq_of_compare same)

variable {ι : Type} [IntegerTypes ι]

instance KeyForm.oriented_order (type : KeyForm ι) : Std.OrientedCmp type.order := by
  cases type with
  | text => exact inferInstanceAs (Std.OrientedOrd String)
  | integer type => exact oriented_numbers Subtype.val

instance KeyForm.lawful_order (type : KeyForm ι) : Std.LawfulEqCmp type.order := by
  cases type with
  | text => exact inferInstanceAs (Std.LawfulEqOrd String)
  | integer type => exact lawful_numbers Subtype.val_injective

section

variable {element value : JsonForm ι} {key : KeyForm ι}

theorem oriented_lists (ih : Std.OrientedCmp element.order) :
    Std.OrientedCmp (compareLists element.order) := by
  rw [compareLists_eq]
  infer_instance

theorem lawful_lists (ih : Std.LawfulEqCmp element.order) :
    Std.LawfulEqCmp (compareLists element.order) := by
  rw [compareLists_eq]
  infer_instance

theorem oriented_maps (ih : Std.OrientedCmp value.order) :
    Std.OrientedCmp (compareLists fun x y : key.Carrier × value.Carrier =>
      (key.order x.1 y.1).then (value.order x.2 y.2)) := by
  have pairs := oriented_pairs key.order value.order
  rw [compareLists_eq]
  infer_instance

theorem lawful_maps (ih : Std.LawfulEqCmp value.order) :
    Std.LawfulEqCmp (compareLists fun x y : key.Carrier × value.Carrier =>
      (key.order x.1 y.1).then (value.order x.2 y.2)) := by
  have pairs := lawful_pairs key.order value.order
  rw [compareLists_eq]
  infer_instance

end

instance JsonForm.oriented_order (type : JsonForm ι) : Std.OrientedCmp type.order := by
  induction type with
  | text => exact inferInstanceAs (Std.OrientedOrd String)
  | boolean => exact oriented_numbers Bool.toNat
  | integer type => exact oriented_numbers Subtype.val
  | double => exact oriented_numbers fun x : Double => x.bits.toNat
  | option element ih =>
    refine ⟨fun {a b} => ?_⟩
    cases a <;> cases b
    · rfl
    · rfl
    · rfl
    · exact ih.eq_swap
  | vector element ih | deque element ih | treeSet element ih | hashSet element ih =>
    exact oriented_lists ih
  | treeMap key value ih | hashMap key value ih => exact oriented_maps ih

instance JsonForm.lawful_order (type : JsonForm ι) : Std.LawfulEqCmp type.order := by
  induction type with
  | text => exact inferInstanceAs (Std.LawfulEqOrd String)
  | boolean =>
    have apart : ∀ a b : Bool, a.toNat = b.toNat → a = b := by decide
    exact lawful_numbers fun _ _ => apart _ _
  | integer type => exact lawful_numbers Subtype.val_injective
  | double =>
    refine lawful_numbers (fun x y same => ?_)
    cases x
    cases y
    exact congrArg Double.mk (UInt64.toNat_inj.mp same)
  | option element ih =>
    exact
      { compare_self := fun {a} => by
          cases a with
          | none => rfl
          | some a => exact ih.compare_self
        eq_of_compare := fun {a b} same => by
          cases a <;> cases b
          · rfl
          · cases same
          · cases same
          · exact congrArg some (ih.eq_of_compare same) }
  | vector element ih | deque element ih | treeSet element ih | hashSet element ih =>
    exact lawful_lists ih
  | treeMap key value ih | hashMap key value ih => exact lawful_maps ih

/-! ## Members one by one -/

/-- Members that each go to the end are added in their order. -/
theorem foldl_at_end {α : Type} (apart : α → α → Prop) {add : List α → α → List α}
    (atEnd : ∀ held a, (∀ b ∈ held, apart b a) → add held a = held ++ [a]) {members : List α}
    (pairwise : members.Pairwise apart) : members.foldl add [] = members := by
  have from_held (held : List α) (rest : List α) (pairwise : (held ++ rest).Pairwise apart) :
      rest.foldl add held = held ++ rest := by
    induction rest generalizing held with
    | nil => rw [List.foldl_nil, List.append_nil]
    | cons a rest ih =>
      have before : ∀ b ∈ held, apart b a := fun b member =>
        (List.pairwise_append.mp pairwise).2.2 b member a List.mem_cons_self
      rw [List.append_cons] at pairwise
      rw [List.foldl_cons, atEnd held a before, ih _ pairwise, List.append_assoc,
        List.singleton_append]
  exact from_held [] members pairwise

section

variable {α β : Type} {order : α → α → Ordering}

theorem insertMember_at_end [Std.OrientedCmp order] {a : α} {held : List α}
    (before : ∀ b ∈ held, order b a = .lt) : insertMember order a held = held ++ [a] := by
  induction held with
  | nil => rfl
  | cons b held ih =>
    have behind := Std.OrientedCmp.gt_of_lt (before b List.mem_cons_self)
    rw [insertMember, behind]
    exact congrArg (b :: ·) (ih fun c member => before c (.tail b member))

theorem insertEntry_at_end [Std.OrientedCmp order] {key : α} {value : β} {held : List (α × β)}
    (before : ∀ entry ∈ held, order entry.1 key = .lt) :
    insertEntry order key value held = held ++ [(key, value)] := by
  induction held with
  | nil => rfl
  | cons entry held ih =>
    have behind := Std.OrientedCmp.gt_of_lt (before entry List.mem_cons_self)
    rw [insertEntry, behind]
    exact congrArg (entry :: ·) (ih fun c member => before c (.tail entry member))

theorem addMember_at_end [Std.LawfulEqCmp order] {a : α} {held : List α}
    (apart : ∀ b ∈ held, b ≠ a) : addMember order a held = held ++ [a] := by
  induction held with
  | nil => rfl
  | cons b held ih =>
    have other : order a b ≠ .eq := fun same =>
      apart b List.mem_cons_self (Std.LawfulEqCmp.eq_of_compare same).symm
    rw [addMember, if_neg other, ih fun c member => apart c (.tail b member), List.cons_append]

theorem addEntry_at_end [Std.LawfulEqCmp order] {key : α} {value : β} {held : List (α × β)}
    (apart : ∀ entry ∈ held, entry.1 ≠ key) :
    addEntry order key value held = held ++ [(key, value)] := by
  induction held with
  | nil => rfl
  | cons entry held ih =>
    have other : order key entry.1 ≠ .eq := fun same =>
      apart entry List.mem_cons_self (Std.LawfulEqCmp.eq_of_compare same).symm
    rw [addEntry, if_neg other, ih fun c member => apart c (.tail entry member), List.cons_append]

/-- An ascending list is the tree set of its members. -/
theorem treeSetOf_ascending [Std.OrientedCmp order] {members : List α}
    (ascending : members.Pairwise fun a b => order a b = .lt) : treeSetOf order members = members :=
  foldl_at_end (order · · = .lt) (fun _ _ before => insertMember_at_end before) ascending

/-- A list without repetition is the hashed set of its members. -/
theorem hashSetOf_nodup [Std.LawfulEqCmp order] {members : List α} (nodup : members.Nodup) :
    hashSetOf order members = members :=
  foldl_at_end (· ≠ ·) (fun _ _ apart => addMember_at_end apart) nodup

/-- A list ascending by key is the tree map of its entries. -/
theorem treeMapOf_ascending [Std.OrientedCmp order] {entries : List (α × β)}
    (ascending : entries.Pairwise fun a b => order a.1 b.1 = .lt) :
    treeMapOf order entries = entries :=
  foldl_at_end (order ·.1 ·.1 = .lt) (fun _ _ before => insertEntry_at_end before) ascending

/-- A list without a repeated key is the hashed map of its entries. -/
theorem hashMapOf_nodup [Std.LawfulEqCmp order] {entries : List (α × β)}
    (nodup : (entries.map Prod.fst).Nodup) : hashMapOf order entries = entries :=
  foldl_at_end (·.1 ≠ ·.1) (fun _ _ apart => addEntry_at_end apart) (List.pairwise_map.mp nodup)

end

end EntityTables
