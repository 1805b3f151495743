/-
# EntityTables.Proofs.Registry — adapters are what their types compile to

A registry compiles a type at most once, and no operation changes the type of a path or an adapter
that is there. So the adapter of a registered type is what the type compiles to, whenever it is
asked for.

* `Registry.Coherent` — the invariant; `coherent_empty`, `Coherent.register`, `Coherent.adapter`.
* `Registry.Knows` — the adapter of a type is there; `Knows.adapter_run`.
* `Coherent.knows_of_adapter` — it is there once it was asked for.
-/
import EntityTables.Proofs.Action
import EntityTables.Registry

namespace EntityTables.Registry

set_option autoImplicit false

variable {registry after : Registry} {mapping : Mapping} {path : String} {found : Instance}

/-- Every adapter is of a registered type, and is what the type compiles to. -/
def Coherent (registry : Registry) : Prop :=
  ∀ made ∈ registry.compiled, registry.find? made.mapping.path = some made.mapping ∧
    made.mapping.compile = .ok made.compiled

/-- The adapter of a type is there. -/
def Knows (registry : Registry) (mapping : Mapping) (compiled : Compiled) : Prop :=
  ∃ found, registry.compiled? mapping.path = some found ∧ found.mapping = mapping ∧
    found.compiled = compiled

theorem register_run (mapping : Mapping) (registry : Registry) :
    register mapping registry =
      (.ok (), if (registry.find? mapping.path).isSome then registry
        else { registry with registered := registry.registered ++ [mapping] }) := rfl

/-- A type stays registered under its path. -/
theorem find?_register (known : registry.find? path = some mapping) (other : Mapping) :
    (register other registry).2.find? path = some mapping := by
  rw [register_run]
  split
  · exact known
  · unfold find? at known ⊢
    rw [List.find?_append, known]
    rfl

theorem Coherent.register (coherent : registry.Coherent) (mapping : Mapping) :
    (Registry.register mapping registry).2.Coherent := by
  intro made member
  have among : made ∈ registry.compiled := by
    rw [register_run] at member
    split at member <;> exact member
  obtain ⟨known, compiles⟩ := coherent made among
  exact ⟨find?_register known mapping, compiles⟩

theorem adapter_eq (path : String) (registry : Registry) :
    adapter path registry =
      match registry.compiled? path with
      | some found => (.ok found, registry)
      | none =>
        match registry.find? path with
        | none => (.error (.configuration (.unregistered path)), registry)
        | some mapping =>
          match mapping.compile with
          | .error fault => (.error (.schema fault), registry)
          | .ok compiled =>
            (.ok ⟨registry.compiled.length, mapping, compiled⟩,
              { registry with
                compiled := registry.compiled ++ [⟨registry.compiled.length, mapping, compiled⟩] }) := by
  show (match registry.compiled? path with
    | some found => (pure found : Action Registry Instance)
    | none =>
      match registry.find? path with
      | none => throw (Error.configuration (.unregistered path))
      | some mapping =>
        match mapping.compile with
        | .error fault => throw (Error.schema fault)
        | .ok compiled => do
          let made : Instance := ⟨registry.compiled.length, mapping, compiled⟩
          set { registry with compiled := registry.compiled ++ [made] }
          return made) registry = _
  cases registry.compiled? path with
  | some found => rfl
  | none =>
    cases registry.find? path with
    | none => rfl
    | some mapping => cases made : mapping.compile <;> simp only [made] <;> rfl

/-- An adapter that is there is given as it is. -/
theorem Knows.adapter_run {compiled : Compiled} (knows : registry.Knows mapping compiled) :
    ∃ found, adapter mapping.path registry = (.ok found, registry) ∧ found.mapping = mapping ∧
      found.compiled = compiled := by
  obtain ⟨found, there, same, made⟩ := knows
  exact ⟨found, by rw [adapter_eq, there], same, made⟩

/-- The path of a registered type is its own. -/
theorem path_of_find? (known : registry.find? path = some mapping) : mapping.path = path := by
  have same := List.find?_some (p := fun other : Mapping => other.path == path) known
  exact beq_iff_eq.mp same

theorem path_of_compiled? (there : registry.compiled? path = some found) :
    found.mapping.path = path := by
  have same := List.find?_some (p := fun other : Instance => other.mapping.path == path) there
  exact beq_iff_eq.mp same

/-- An adapter that is there is of the type that is registered under its path. -/
theorem Coherent.of_compiled? (coherent : registry.Coherent)
    (there : registry.compiled? path = some found) :
    registry.find? path = some found.mapping ∧ found.mapping.compile = .ok found.compiled := by
  obtain ⟨registered, compiles⟩ := coherent found (List.mem_of_find?_eq_some there)
  rw [path_of_compiled? there] at registered
  exact ⟨registered, compiles⟩

/-- Asking for an adapter changes nothing, or adds what a registered type compiles to, under the
next number. -/
theorem adapter_after (path : String) (registry : Registry) :
    (adapter path registry).2 = registry ∨
      ∃ made : Instance, registry.find? path = some made.mapping ∧
        made.mapping.compile = .ok made.compiled ∧ made.number = registry.compiled.length ∧
          (adapter path registry).2 = { registry with compiled := registry.compiled ++ [made] } := by
  rw [adapter_eq]
  cases registry.compiled? path with
  | some found => exact .inl rfl
  | none =>
    cases known : registry.find? path with
    | none => exact .inl rfl
    | some mapping =>
      cases compiles : mapping.compile with
      | error fault => simp only [compiles, true_or]
      | ok compiled =>
        refine .inr ⟨⟨registry.compiled.length, mapping, compiled⟩, rfl, compiles, rfl, ?_⟩
        simp only [compiles]

/-- Asking for an adapter keeps the invariant. -/
theorem Coherent.adapter (coherent : registry.Coherent) (path : String) :
    (Registry.adapter path registry).2.Coherent := by
  rcases adapter_after path registry with same | ⟨made, known, compiles, -, grown⟩
  · rw [same]
    exact coherent
  · rw [grown]
    intro other member
    rcases List.mem_append.mp member with before | new
    · exact coherent other before
    · rw [List.mem_singleton.mp new, path_of_find? known]
      exact ⟨known, compiles⟩

/-- Once it was asked for, the adapter of a type is there: it is what the type compiles to. -/
theorem Coherent.knows_of_adapter (coherent : registry.Coherent)
    (known : registry.find? mapping.path = some mapping)
    (ran : Registry.adapter mapping.path registry = (.ok found, after)) :
    mapping.compile = .ok found.compiled ∧ after.Knows mapping found.compiled := by
  rw [adapter_eq] at ran
  cases there : registry.compiled? mapping.path with
  | some given =>
    rw [there] at ran
    cases ran
    obtain ⟨registered, compiles⟩ := coherent.of_compiled? there
    rw [known] at registered
    cases registered
    exact ⟨compiles, found, there, rfl, rfl⟩
  | none =>
    rw [there, known] at ran
    cases compiles : mapping.compile with
    | error fault =>
      simp only [compiles] at ran
      cases ran
    | ok compiled =>
      simp only [compiles] at ran
      cases ran
      refine ⟨rfl, _, ?_, rfl, rfl⟩
      unfold compiled? at there ⊢
      rw [List.find?_append, there]
      simp

end EntityTables.Registry
