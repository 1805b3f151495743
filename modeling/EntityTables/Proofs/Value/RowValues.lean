/-
# EntityTables.Proofs.Value.RowValues — values by column name follow their history

Values by column name are a list that is searched from its front. What they hold is told here by
their history alone: a name has the value that was put last, unless it was taken out or everything
was made anew since; and the names stand in the order in which each of them came.

* `Change` — what can be done to values; `Event` — its single steps, pairs being put one by one.
* `latest?` — the value that a history gives a name; `Arrives` — when a name came that is there.
* `Follows` — the invariant of histories; `Follows.proceed` — what one step does to it.
* `RowValues.follows_history` — what values hold after any changes.
-/
import EntityTables.Value.RowValues
import Mathlib.Data.Set.Card

namespace EntityTables

set_option autoImplicit false

/-! ## Single names in a list of pairs -/

section Pairs

variable {name other : String} {value : Value} {pairs : List (String × Value)}

/-- A value that replaces another stands in its place, and a new name comes last. -/
theorem putPair_eq (distinct : (pairs.map Prod.fst).Nodup) :
    putPair name value pairs =
      if name ∈ pairs.map Prod.fst then
        pairs.map fun pair => if pair.1 = name then (name, value) else pair
      else pairs ++ [(name, value)] := by
  induction pairs with
  | nil => rfl
  | cons pair rest ih =>
    obtain ⟨first, old⟩ := pair
    obtain ⟨fresh, distinct⟩ := List.nodup_cons.mp distinct
    rw [putPair]
    by_cases same : first = name
    · subst same
      have others : rest.map (fun pair => if pair.1 = first then (first, value) else pair) = rest := by
        refine (List.map_congr_left fun pair member => if_neg ?_).trans (List.map_id rest)
        intro eq
        exact fresh (List.mem_map.mpr ⟨pair, member, eq⟩)
      simp [others]
    · rw [if_neg same, ih distinct]
      have apart : ¬ name = first := fun eq => same eq.symm
      have names : name ∈ ((first, old) :: rest).map Prod.fst ↔ name ∈ rest.map Prod.fst := by
        rw [List.map_cons, List.mem_cons, or_iff_right apart]
      by_cases among : name ∈ rest.map Prod.fst
      · rw [if_pos among, if_pos (names.mpr among), List.map_cons, if_neg same]
      · rw [if_neg among, if_neg (names.not.mpr among), List.cons_append]

/-- Where names are different, a name that is taken out is gone, and the others stay in order. -/
theorem removePair_eq (distinct : (pairs.map Prod.fst).Nodup) :
    removePair name pairs = pairs.filter fun pair => decide (pair.1 ≠ name) := by
  induction pairs with
  | nil => rfl
  | cons pair rest ih =>
    obtain ⟨first, old⟩ := pair
    obtain ⟨fresh, distinct⟩ := List.nodup_cons.mp distinct
    rw [removePair]
    by_cases same : first = name
    · subst same
      have others : rest.filter (fun pair => decide (pair.1 ≠ first)) = rest := by
        refine List.filter_eq_self.mpr fun pair member => decide_eq_true ?_
        intro eq
        exact fresh (List.mem_map.mpr ⟨pair, member, eq⟩)
      rw [if_pos rfl, List.filter_cons_of_neg (by simp), others]
    · rw [if_neg same, ih distinct, List.filter_cons_of_pos (by simpa using same)]

theorem findPair?_filter_ne :
    findPair? other (pairs.filter fun pair => decide (pair.1 ≠ name)) =
      if other = name then none else findPair? other pairs := by
  induction pairs with
  | nil => simp [findPair?]
  | cons pair rest ih =>
    obtain ⟨first, old⟩ := pair
    by_cases same : first = name
    · rw [List.filter_cons_of_neg (by simpa using same), ih, findPair?]
      by_cases asked : other = name
      · rw [if_pos asked, if_pos asked]
      · rw [if_neg asked, if_neg asked, if_neg fun eq => asked (eq.symm.trans same)]
    · rw [List.filter_cons_of_pos (by simpa using same), findPair?, findPair?, ih]
      by_cases asked : first = other
      · rw [if_pos asked, if_pos asked, if_neg fun eq => same (asked.trans eq)]
      · rw [if_neg asked, if_neg asked]

theorem isSome_findPair? :
    (findPair? name pairs).isSome = true ↔ name ∈ pairs.map Prod.fst := by
  induction pairs with
  | nil => simp [findPair?]
  | cons pair rest ih =>
    obtain ⟨first, old⟩ := pair
    rw [findPair?, List.map_cons, List.mem_cons]
    by_cases same : first = name
    · simp [same]
    · rw [if_neg same, ih, or_iff_right fun eq => same eq.symm]

/-- Where names are different, each value is the one of its name. -/
theorem map_findPair? (distinct : (pairs.map Prod.fst).Nodup) :
    (pairs.map Prod.fst).map (findPair? · pairs) = pairs.map fun pair => some pair.2 := by
  induction pairs with
  | nil => rfl
  | cons pair rest ih =>
    obtain ⟨first, old⟩ := pair
    obtain ⟨fresh, distinct⟩ := List.nodup_cons.mp distinct
    have others : (rest.map Prod.fst).map (findPair? · ((first, old) :: rest)) =
        (rest.map Prod.fst).map (findPair? · rest) := by
      refine List.map_congr_left fun name member => ?_
      rw [findPair?, if_neg]
      rintro rfl
      exact fresh member
    rw [List.map_cons, List.map_cons, List.map_cons, others, ih distinct, findPair?, if_pos rfl]

end Pairs

namespace RowValues

variable {values : RowValues} {name other : String} {value : Value}

theorem isSome_get? : (values.get? name).isSome = true ↔ name ∈ values.columns :=
  isSome_findPair?

theorem get?_ne_none : values.get? name ≠ none ↔ name ∈ values.columns := by
  rw [← isSome_get?, Option.isSome_iff_ne_none]

theorem entries_put (values : RowValues) (name : String) (value : Value) :
    (values.put name value).entries =
      if name ∈ values.columns then
        values.entries.map fun pair => if pair.1 = name then (name, value) else pair
      else values.entries ++ [(name, value)] :=
  putPair_eq values.distinct

theorem columns_put (values : RowValues) (name : String) (value : Value) :
    (values.put name value).columns =
      if name ∈ values.columns then values.columns else values.columns ++ [name] :=
  map_fst_putPair name value values.entries

theorem entries_erase (values : RowValues) (name : String) :
    (values.erase name).entries = values.entries.filter fun pair => decide (pair.1 ≠ name) :=
  removePair_eq values.distinct

theorem columns_erase_sublist (values : RowValues) (name : String) :
    (values.erase name).columns.Sublist values.columns :=
  (removePair_sublist name values.entries).map Prod.fst

@[simp] theorem get?_erase (values : RowValues) (name other : String) :
    (values.erase name).get? other = if other = name then none else values.get? other := by
  unfold get?
  rw [entries_erase, findPair?_filter_ne]

theorem map_get?_columns (values : RowValues) :
    values.columns.map values.get? = values.values.map some := by
  rw [RowValues.values, List.map_map]
  exact map_findPair? values.distinct

/-! ## Histories -/

/-- What can be done to values: a name is given a value or taken out, or all is made anew of
pairs. -/
inductive Change where
  | put (name : String) (value : Value)
  | remove (name : String)
  | collect (pairs : List (String × Value))

/-- The values after a change. -/
def Change.apply (values : RowValues) : Change → RowValues
  | put name value => values.put name value
  | remove name => (values.remove name).2
  | collect pairs => ofPairs pairs

/-- The values after some changes, from none on. -/
def after (changes : List Change) : RowValues := changes.foldl Change.apply empty

/-- A step of a history. -/
inductive Event where
  | put (name : String) (value : Value)
  | remove (name : String)
  /-- Everything is gone. -/
  | clear

namespace Event

/-- Whether a step decides about a name. -/
def concerns (name : String) : Event → Bool
  | put other _ | remove other => other == name
  | clear => true

/-- The value that a step puts. -/
def value? : Event → Option Value
  | put _ value => some value
  | remove _ | clear => none

/-- The values after a step. -/
def apply (values : RowValues) : Event → RowValues
  | put name value => values.put name value
  | remove name => values.erase name
  | clear => empty

end Event

/-- The steps of a change: pairs are put one by one where nothing is left. -/
def Change.events : Change → List Event
  | put name value => [.put name value]
  | remove name => [.remove name]
  | collect pairs => .clear :: pairs.map fun pair => .put pair.1 pair.2

/-- The steps of some changes. -/
def history (changes : List Change) : List Event := changes.flatMap Change.events

/-- The value of a name: it was put by the last step that concerns the name. -/
def latest? (events : List Event) (name : String) : Option Value :=
  (events.reverse.find? (Event.concerns name)).bind Event.value?

/-- A name came by the step of a number: it was not there before it, and has always been there
since. -/
structure Arrives (events : List Event) (name : String) (step : Nat) : Prop where
  within : step < events.length
  absent : latest? (events.take step) name = none
  since : ∀ later, step < later → later ≤ events.length → latest? (events.take later) name ≠ none

section Histories

variable {events : List Event} {event : Event} {step : Nat}

theorem latest?_concat (events : List Event) (event : Event) (name : String) :
    latest? (events ++ [event]) name =
      if event.concerns name then event.value? else latest? events name := by
  unfold latest?
  rw [List.reverse_append, List.reverse_singleton, List.singleton_append]
  cases concerned : event.concerns name with
  | true => rw [List.find?_cons_of_pos concerned, Option.bind_some, if_pos rfl]
  | false => rw [List.find?_cons_of_neg (by simp [concerned]), if_neg Bool.false_ne_true]

/-- A name that came is there. -/
theorem Arrives.there (arrives : Arrives events name step) : latest? events name ≠ none := by
  have last := arrives.since events.length arrives.within (Nat.le_refl _)
  rwa [List.take_length] at last

/-- A name that is there came once. -/
theorem Arrives.unique {other : Nat} (arrives : Arrives events name step)
    (again : Arrives events name other) : step = other := by
  rcases Nat.lt_trichotomy step other with before | same | behind
  · exact absurd again.absent (arrives.since other before (Nat.le_of_lt again.within))
  · exact same
  · exact absurd arrives.absent (again.since step behind (Nat.le_of_lt arrives.within))

/-- With one more step, a name came when it came before, or just now. -/
theorem arrives_concat_iff :
    Arrives (events ++ [event]) name step ↔ latest? (events ++ [event]) name ≠ none ∧
      (Arrives events name step ∨ latest? events name = none ∧ step = events.length) := by
  have earlier {number : Nat} (le : number ≤ events.length) :
      (events ++ [event]).take number = events.take number := List.take_append_of_le_length le
  have length : (events ++ [event]).length = events.length + 1 := List.length_append
  constructor
  · intro arrives
    refine ⟨arrives.there, ?_⟩
    have within := arrives.within
    have absent := arrives.absent
    rw [earlier (by omega)] at absent
    by_cases last : step = events.length
    · rw [last, List.take_length] at absent
      exact .inr ⟨absent, last⟩
    · refine .inl ⟨by omega, absent, fun later behind le => ?_⟩
      rw [← earlier le]
      exact arrives.since later behind (by omega)
  · rintro ⟨there, before | ⟨absent, rfl⟩⟩
    · have within := before.within
      refine ⟨by omega, by rw [earlier (by omega)]; exact before.absent, fun later behind le => ?_⟩
      by_cases last : later = events.length + 1
      · rwa [last, ← length, List.take_length]
      · rw [earlier (by omega)]
        exact before.since later behind (by omega)
    · refine ⟨by omega, by rwa [earlier (Nat.le_refl _), List.take_length],
        fun later behind le => ?_⟩
      obtain rfl : later = (events ++ [event]).length := by omega
      rwa [List.take_length]

/-- A name that is there came at some time. -/
theorem exists_arrives (there : latest? events name ≠ none) : ∃ step, Arrives events name step := by
  induction events using List.reverseRecOn with
  | nil => exact absurd rfl there
  | append_singleton events event ih =>
    by_cases before : latest? events name = none
    · exact ⟨_, arrives_concat_iff.mpr ⟨there, .inr ⟨before, rfl⟩⟩⟩
    · obtain ⟨step, arrives⟩ := ih before
      exact ⟨step, arrives_concat_iff.mpr ⟨there, .inl arrives⟩⟩

end Histories

/-! ## Values after any history -/

/-- Values are those of a history: each name has its latest value, and the names stand in the order
in which they came. -/
structure Follows (values : RowValues) (events : List Event) : Prop where
  get? : ∀ name, values.get? name = latest? events name
  order : values.columns.Pairwise fun first second =>
    ∀ early late, Arrives events first early → Arrives events second late → early < late

namespace Follows

variable {events : List Event}

theorem mem_columns (follows : values.Follows events) :
    name ∈ values.columns ↔ latest? events name ≠ none := by
  rw [← follows.get?, get?_ne_none]

/-- A name that was there came no later by one more step. -/
theorem arrives (follows : values.Follows events) {event : Event} {step : Nat}
    (member : name ∈ values.columns) (now : Arrives (events ++ [event]) name step) :
    Arrives events name step := by
  rcases (arrives_concat_iff.mp now).2 with before | ⟨absent, -⟩
  · exact before
  · exact absurd absent (follows.mem_columns.mp member)

/-- Names that were there stay in order. -/
theorem order_concat (follows : values.Follows events) (event : Event) :
    values.columns.Pairwise fun first second => ∀ early late,
      Arrives (events ++ [event]) first early → Arrives (events ++ [event]) second late →
        early < late :=
  follows.order.imp_of_mem fun first second before early late one two =>
    before early late (follows.arrives first one) (follows.arrives second two)

/-- One more step. -/
theorem proceed (follows : values.Follows events) (event : Event) :
    (event.apply values).Follows (events ++ [event]) := by
  have kept := follows.order_concat event
  cases event with
  | put name value =>
    constructor
    · intro other
      rw [Event.apply, get?_put, latest?_concat, follows.get?]
      by_cases same : other = name
      · simp [same, Event.concerns, Event.value?]
      · have apart : ¬ name = other := fun eq => same eq.symm
        simp [same, apart, Event.concerns]
    · rw [Event.apply, columns_put]
      by_cases there : name ∈ values.columns
      · rw [if_pos there]
        exact kept
      · rw [if_neg there, List.pairwise_append]
        refine ⟨kept, List.pairwise_singleton _ _, ?_⟩
        intro first member last single early late one two
        rw [List.mem_singleton.mp single] at two
        -- the new name comes by this very step, and no name came later
        rcases (arrives_concat_iff.mp two).2 with before | ⟨-, rfl⟩
        · exact absurd (follows.mem_columns.mpr before.there) there
        · exact (follows.arrives member one).within
  | remove name =>
    constructor
    · intro other
      rw [Event.apply, get?_erase, latest?_concat, follows.get?]
      by_cases same : other = name
      · simp [same, Event.concerns, Event.value?]
      · have apart : ¬ name = other := fun eq => same eq.symm
        simp [same, apart, Event.concerns]
    · exact kept.sublist (columns_erase_sublist values name)
  | clear =>
    constructor
    · intro other
      rw [latest?_concat]
      rfl
    · exact .nil

end Follows

theorem follows_empty : empty.Follows [] := ⟨fun _ => rfl, .nil⟩

/-- Values after the steps of a history. -/
theorem follows_events (events : List Event) : (events.foldl Event.apply empty).Follows events := by
  induction events using List.reverseRecOn with
  | nil => exact follows_empty
  | append_singleton events event ih =>
    rw [List.foldl_concat]
    exact ih.proceed event

/-- Pairs put one by one. -/
theorem foldl_put (pairs : List (String × Value)) (values : RowValues) :
    (pairs.map fun pair => Event.put pair.1 pair.2).foldl Event.apply values =
      pairs.foldl (fun values pair => values.put pair.1 pair.2) values := by
  rw [List.foldl_map]
  rfl

/-- A change is its steps. -/
theorem Change.apply_eq (values : RowValues) (change : Change) :
    change.apply values = change.events.foldl Event.apply values := by
  cases change with
  | put name value => rfl
  | remove name => rfl
  | collect pairs => exact (foldl_put pairs empty).symm

theorem after_eq (changes : List Change) :
    after changes = (history changes).foldl Event.apply empty := by
  unfold after history
  rw [List.foldl_flatMap]
  congr
  funext values change
  exact change.apply_eq values

theorem follows_after (changes : List Change) : (after changes).Follows (history changes) := by
  rw [after_eq]
  exact follows_events _

theorem after_concat (changes : List Change) (change : Change) :
    after (changes ++ [change]) = change.apply (after changes) := by
  unfold after
  rw [List.foldl_concat]

/-- Whatever was put, taken out and collected before, values hold each name once, with its latest
value, in the order in which the names came; a later value takes the place of an earlier one, a name
is taken out with its value from among the others, and pairs are put one by one. -/
theorem follows_history (changes : List Change) :
    let values := after changes
    let events := history changes
    values.columns.Nodup ∧
      (∀ name, values.get? name = latest? events name ∧
        values.contains name = (latest? events name).isSome ∧
          (name ∈ values.columns ↔ ∃! step, Arrives events name step)) ∧
      values.columns.Pairwise (fun first second =>
        ∀ early late, Arrives events first early → Arrives events second late → early < late) ∧
      values.values.map some = values.columns.map (latest? events) ∧
      values.size = {name | latest? events name ≠ none}.ncard ∧
      (∀ name value, (after (changes ++ [.put name value])).entries =
        if latest? events name = none then values.entries ++ [(name, value)]
        else values.entries.map fun pair => if pair.1 = name then (name, value) else pair) ∧
      (∀ name, values.remove name = (latest? events name, after (changes ++ [.remove name])) ∧
        (after (changes ++ [.remove name])).entries =
          values.entries.filter fun pair => decide (pair.1 ≠ name)) ∧
      ∀ pairs, ofPairs pairs = after (pairs.map fun pair => .put pair.1 pair.2) ∧
        after (changes ++ [.collect pairs]) = ofPairs pairs := by
  intro values events
  have follows : values.Follows events := follows_after changes
  refine ⟨values.distinct, fun name => ⟨follows.get? name, ?_, ?_⟩, follows.order, ?_, ?_, ?_, ?_,
    ?_⟩
  · rw [contains, follows.get?]
  · rw [follows.mem_columns]
    constructor
    · intro there
      obtain ⟨step, arrives⟩ := exists_arrives there
      exact ⟨step, arrives, fun other again => again.unique arrives⟩
    · rintro ⟨step, arrives, -⟩
      exact arrives.there
  · rw [← map_get?_columns, funext follows.get?]
  · have present : {name | latest? events name ≠ none} = {name | name ∈ values.columns} :=
      Set.ext fun name => follows.mem_columns.symm
    have length : values.size = values.columns.length := (List.length_map Prod.fst).symm
    have count := List.toFinset_card_of_nodup (l := values.columns) values.distinct
    rw [present, length, ← count, ← Set.ncard_coe_finset, List.coe_toFinset]
  · intro name value
    rw [after_concat, Change.apply, entries_put]
    by_cases there : name ∈ values.columns
    · rw [if_pos there, if_neg (follows.mem_columns.mp there)]
    · rw [if_neg there, if_pos (not_not.mp (follows.mem_columns.not.mp there))]
  · intro name
    rw [after_concat]
    exact ⟨Prod.ext (follows.get? name) rfl, entries_erase values name⟩
  · intro pairs
    refine ⟨?_, after_concat changes _⟩
    unfold after ofPairs
    rw [List.foldl_map]
    rfl

end RowValues

end EntityTables
