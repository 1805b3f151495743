/-
# EntityTables.Proofs.Action — steps that may fail, one after the other

What two steps give together, in terms of what each gives by itself: for values that may be missing,
and for steps on a state.

* `bind_eq_ok_iff`, `mapM_eq_ok_iff` — success of the whole is success of each part.
* `Action.bind_run`, `Action.tryCatch_run` — a step on a state and the next one, or another one.
* `Action.bind_run_eq_ok_iff`, `Action.forM_eq_ok` — what has succeeded if several steps have.
-/
import EntityTables.Gateway.Basic
import Mathlib.Data.List.Forall2

namespace EntityTables

set_option autoImplicit false

/-! ## Values that may be missing -/

section Except

variable {ε α β : Type}

theorem bind_eq_ok_iff {x : Except ε α} {next : α → Except ε β} {b : β} :
    x >>= next = .ok b ↔ ∃ a, x = .ok a ∧ next a = .ok b := by
  cases x with
  | error fault => simp [bind, Except.bind]
  | ok a => simp [bind, Except.bind]

theorem map_eq_ok_iff {x : Except ε α} {f : α → β} {b : β} :
    f <$> x = .ok b ↔ ∃ a, x = .ok a ∧ f a = b := by
  cases x with
  | error fault => simp [Functor.map, Except.map]
  | ok a => simp [Functor.map, Except.map]

/-- A list is worked off exactly if each of its members is. -/
theorem mapM_eq_ok_iff {f : α → Except ε β} {list : List α} {made : List β} :
    list.mapM f = .ok made ↔ List.Forall₂ (fun a b => f a = .ok b) list made := by
  induction list generalizing made with
  | nil => simp [pure, Except.pure, eq_comm]
  | cons a rest ih =>
    rw [List.mapM_cons, bind_eq_ok_iff, List.forall₂_cons_left_iff]
    constructor
    · rintro ⟨b, first, others⟩
      obtain ⟨bs, behind, same⟩ := bind_eq_ok_iff.mp others
      cases same
      exact ⟨b, bs, first, ih.mp behind, rfl⟩
    · rintro ⟨b, bs, first, behind, rfl⟩
      exact ⟨b, first, bind_eq_ok_iff.mpr ⟨bs, ih.mpr behind, rfl⟩⟩

/-- A list is worked off exactly if something is found for each of its members. -/
theorem mapM_eq_some_iff {f : α → Option β} {list : List α} {made : List β} :
    list.mapM f = some made ↔ List.Forall₂ (fun a b => f a = some b) list made := by
  induction list generalizing made with
  | nil => simp [eq_comm]
  | cons a rest ih =>
    rw [List.mapM_cons, List.forall₂_cons_left_iff]
    simp only [Option.bind_eq_bind, Option.bind_eq_some_iff, Option.pure_def, Option.some.injEq, ih]
    constructor
    · rintro ⟨b, first, bs, behind, same⟩
      exact ⟨b, bs, first, behind, same.symm⟩
    · rintro ⟨b, bs, first, behind, same⟩
      exact ⟨b, first, bs, behind, same.symm⟩

end Except

/-! ## Two lists side by side -/

section Forall₂

variable {α β : Type} {R : α → β → Prop} {as : List α} {bs : List β}

theorem exists_left_of_mem (related : List.Forall₂ R as bs) {b : β} (member : b ∈ bs) :
    ∃ a ∈ as, R a b := by
  induction related with
  | nil => cases member
  | cons first _ ih =>
    rcases List.mem_cons.mp member with rfl | behind
    · exact ⟨_, List.mem_cons_self, first⟩
    · obtain ⟨a, among, holds⟩ := ih behind
      exact ⟨a, List.mem_cons_of_mem _ among, holds⟩

theorem exists_right_of_mem (related : List.Forall₂ R as bs) {a : α} (member : a ∈ as) :
    ∃ b ∈ bs, R a b := exists_left_of_mem related.flip member

end Forall₂

/-! ## Steps on a state -/

namespace Action

variable {σ τ α β : Type}

theorem bind_run (action : Action σ α) (next : α → Action σ β) (state : σ) :
    (action >>= next) state =
      match action state with
      | (.ok a, after) => next a after
      | (.error fault, after) => (.error fault, after) := by
  show (ExceptT.bind action next) state = _
  simp only [ExceptT.bind, ExceptT.mk, bind, StateT.bind]
  cases h : action state with
  | mk outcome after => cases outcome <;> rfl

theorem map_run (f : α → β) (action : Action σ α) (state : σ) :
    (f <$> action) state = (f <$> (action state).1, (action state).2) := by
  show (action >>= fun a => pure (f a)) state = _
  rw [bind_run]
  rcases action state with ⟨fault | a, after⟩ <;> rfl

/-- What follows a step and leaves the state alone. -/
theorem bind_snd {action : Action σ α} {next : α → Action σ β}
    (kept : ∀ a state, (next a state).2 = state) (state : σ) :
    ((action >>= next) state).2 = (action state).2 := by
  rw [bind_run]
  rcases action state with ⟨fault | a, after⟩
  · rfl
  · exact kept a after

/-- Two steps succeed exactly if both do. -/
theorem bind_run_eq_ok_iff {action : Action σ α} {next : α → Action σ β} {state after : σ} {b : β} :
    (action >>= next) state = (.ok b, after) ↔
      ∃ a between, action state = (.ok a, between) ∧ next a between = (.ok b, after) := by
  rw [bind_run]
  rcases action state with ⟨fault | a, between⟩
  · constructor
    · intro failed
      cases failed
    · rintro ⟨a, other, done, -⟩
      cases done
  · constructor
    · intro done
      exact ⟨a, between, rfl, done⟩
    · rintro ⟨_, _, ⟨⟩, done⟩
      exact done

/-- A value that is there leaves the state alone. -/
theorem ofExcept_run_eq_ok_iff {outcome : Except Error α} {state after : σ} {a : α} :
    ofExcept outcome state = (.ok a, after) ↔ outcome = .ok a ∧ state = after := by
  cases outcome with
  | error fault => exact ⟨nofun, nofun⟩
  | ok b =>
    constructor
    · intro done
      cases done
      exact ⟨rfl, rfl⟩
    · rintro ⟨⟨⟩, rfl⟩
      rfl

/-- A step with another one in case that it fails. -/
theorem tryCatch_run (action : Action σ α) (handler : Error → Action σ α) (state : σ) :
    (tryCatch action handler) state =
      match action state with
      | (.ok a, after) => (.ok a, after)
      | (.error fault, after) => handler fault after := by
  show (ExceptT.tryCatch action handler) state = _
  simp only [ExceptT.tryCatch, ExceptT.mk, bind, StateT.bind]
  cases h : action state with
  | mk outcome after => cases outcome <;> rfl

theorem within_run (part : τ → σ) (replace : τ → σ → τ) (action : Action σ α) (whole : τ) :
    within part replace action whole =
      ((action (part whole)).1, replace whole (action (part whole)).2) := rfl

end Action

end EntityTables
