/-
# EntityTables.Proofs.Derive.Acceptance — which declarations become entities

A declaration whose attributes are well formed becomes an entity exactly if one of its fields can be
the identity and the others can be columns besides it. Each other field is then one column, written
and read in the order of the declaration. The source of the adapter is read as tokens if the parent
is a path of names; another parent, which stands in the source without its blanks, may prevent it.

* `WellFormed` — what the identity and the other fields must fulfil; `Maps` — what becomes of them.
* `derive_eq_ok_iff`, `compiles_iff_wellFormed` — the schema of a declaration.
* `derive_iff_wellFormed` — the declarations that become entities, and what becomes of their fields.
* `keyLine_refused` — an identity that is named like the reference to the parent, and a parent whose
  blanks matter.
-/
import EntityTables.Proofs.Adapter.Parsing
import EntityTables.Proofs.Derive.Election
import EntityTables.Proofs.Derive.FullPaths

namespace EntityTables

set_option autoImplicit false

open Source

namespace Derive

/-! ## The whole declaration -/

/-- The fields with what their attributes ask for, and the parent that the declaration names, if it is
a struct with named fields and without parameters, and all attributes are well formed. -/
def parsed (item : Item) : Except Fault (List Candidate × Option String) := do
  let fields ← namedFields item
  let parent? ← parentAttribute item.attributes
  let found ← fields.mapM attributed
  return (found, parent?)

/-- The steps that build the schema are in the usual order. -/
theorem schemaSteps_eq_ordered (identity : String) (mapped : List Candidate)
    (parent? : Option String) :
    schemaSteps identity mapped parent? =
      Schema.ordered identity (mapped.map Candidate.column) parent? := by
  unfold schemaSteps Schema.ordered
  rw [List.map_map]
  rfl

/-- A declaration becomes an entity if it is parsed, its fields suit and one of them is elected, and
the schema that it and the others describe is accepted. -/
theorem derive_eq_ok_iff {item : Item} {compiled : Compiled} :
    derive item = .ok compiled ↔
      ∃ found parent? identity others, parsed item = .ok (found, parent?) ∧
        (∀ candidate ∈ found, candidate.Suits) ∧ Elects found identity others ∧
        identity.FitsIdentity ∧
        Schema.build item.name (Schema.ordered identity.field.name
          (others.map Candidate.column) parent?) >>= Schema.compile = .ok compiled := by
  constructor
  · intro derived
    unfold derive at derived
    obtain ⟨fields, named, derived⟩ := bind_eq_ok_iff.mp derived
    obtain ⟨parent?, parent, derived⟩ := bind_eq_ok_iff.mp derived
    obtain ⟨found, looked, derived⟩ := bind_eq_ok_iff.mp derived
    obtain ⟨⟨name, others⟩, parts, derived⟩ := bind_eq_ok_iff.mp derived
    obtain ⟨all, suits, single, -⟩ := candidates_eq_ok_iff.mp looked
    obtain ⟨identity, elects, fits, rfl⟩ := (splitIdentity_eq_ok_iff suits single).mp parts
    refine ⟨found, parent?, identity, others, ?_, suits, elects, fits, ?_⟩
    · exact bind_eq_ok_iff.mpr ⟨fields, named, bind_eq_ok_iff.mpr ⟨parent?, parent,
        bind_eq_ok_iff.mpr ⟨found, all, rfl⟩⟩⟩
    · simp only at derived
      split at derived
      · next made whole =>
        cases derived
        rwa [← schemaSteps_eq_ordered]
      · cases derived
  · rintro ⟨found, parent?, identity, others, whole, suits, elects, fits, compiles⟩
    obtain ⟨fields, named, whole⟩ := bind_eq_ok_iff.mp whole
    obtain ⟨_, parent, whole⟩ := bind_eq_ok_iff.mp whole
    obtain ⟨_, all, made⟩ := bind_eq_ok_iff.mp whole
    cases made
    have looked : candidates false fields = .ok found :=
      candidates_eq_ok_iff.mpr ⟨all, suits, elects.single, fun marked => nomatch marked⟩
    have parts : splitIdentity item found = .ok (identity.field.name, others) :=
      (splitIdentity_eq_ok_iff suits elects.single).mpr ⟨identity, elects, fits, rfl⟩
    unfold derive
    refine bind_eq_ok_iff.mpr ⟨fields, named, bind_eq_ok_iff.mpr ⟨parent?, parent,
      bind_eq_ok_iff.mpr ⟨found, looked, bind_eq_ok_iff.mpr ⟨_, parts, ?_⟩⟩⟩⟩
    simp only [schemaSteps_eq_ordered, compiles]
    rfl

/-! ## Columns -/

/-- The column's name: the attribute's, or the field's without the mark of a raw identifier. -/
def Candidate.columnName (candidate : Candidate) : String :=
  candidate.attributes.column?.getD (withoutRaw candidate.field.name)

/-- Whether the attributes ask for a relation. -/
def Candidate.isRelation (candidate : Candidate) : Bool :=
  candidate.attributes.oneToOne || candidate.attributes.oneToMany

/-- Whether the type is an option of one type. -/
def Candidate.IsOption (candidate : Candidate) : Prop :=
  candidate.field.type.bare.lastName? = some "Option" ∧
    candidate.field.type.bare.soleArgument?.isSome = true

section Columns

variable (candidate : Candidate)

@[simp] theorem Candidate.name_column : candidate.column.name = candidate.columnName := by
  simp only [column]
  split <;> rfl

@[simp] theorem Candidate.field_column : candidate.column.field = candidate.field.name := by
  simp only [column]
  split <;> exact Column.field_withField _ _

@[simp] theorem Candidate.declaredType_column :
    candidate.column.declaredType = candidate.declared := by
  simp only [column]
  split <;> rfl

theorem Candidate.nullable_column : candidate.column.nullable = true ↔ candidate.IsOption := by
  have flag : candidate.column.nullable = candidate.field.type.unwrapOption.2 := by
    simp only [column]
    split
    · next optional => exact optional.symm
    · next other => exact (eq_false_of_ne_true other).symm
  rw [flag]
  unfold IsOption
  by_cases option : candidate.field.type.bare.lastName? = some "Option" ∧
      candidate.field.type.bare.soleArgument?.isSome = true
  · obtain ⟨inner, applied⟩ := Option.isSome_iff_exists.mp option.2
    rw [TypeExpr.unwrapOption_of_option option.1 applied]
    exact iff_of_true rfl option
  · rw [TypeExpr.unwrapOption_of_not_option option]
    exact iff_of_false Bool.false_ne_true option

/-- What a type declares by itself is no relation. -/
theorem isRelation_declared (type : TypeExpr) :
    (ColumnKind.of type.declared).isRelation = false := by
  cases shape : type.declared with
  | oneToOne path => exact absurd shape (type.declared_ne_relation path).1
  | oneToMany path => exact absurd shape (type.declared_ne_relation path).2
  | _ => rfl

/-- A relation is what the attributes ask for, whatever the type. -/
theorem Candidate.isRelation_column :
    candidate.column.kind.isRelation = candidate.isRelation := by
  have kind : candidate.column.kind = .of candidate.declared := by
    simp only [column]
    split <;> rfl
  rw [kind]
  unfold declared isRelation
  cases candidate.attributes.oneToOne with
  | true => rfl
  | false =>
    cases candidate.attributes.oneToMany with
    | true => rfl
    | false => exact isRelation_declared _

/-- A field has a column unless it is no relation and of a type that no column holds. -/
theorem Candidate.resolve?_declared_ne_none_iff :
    candidate.declared.resolve? ≠ none ↔ (candidate.isRelation = false →
      ∀ path, candidate.field.type.unwrapOption.1.declared ≠ .unsupported path) := by
  rw [Ne, DeclaredType.resolve?_eq_none_iff, not_exists]
  unfold declared isRelation
  cases candidate.attributes.oneToOne with
  | true => simp
  | false =>
    cases candidate.attributes.oneToMany with
    | true => simp
    | false => simp

end Columns

/-! ## Which declarations become entities -/

/-- What the elected field and the others must fulfil: the first can be the identity, the others ask
for one relation at most each and have a type with a column form, and no two columns have one name,
that of the identity and the reference to the parent included. -/
structure WellFormed (identity : Candidate) (others : List Candidate) (parent? : Option String) :
    Prop where
  fits : identity.FitsIdentity
  relations : ∀ other ∈ others, other.OneRelation
  types : ∀ other ∈ others, other.isRelation = false →
    ∀ path, other.field.type.unwrapOption.1.declared ≠ .unsupported path
  names : (identity.field.name :: others.map Candidate.columnName ++
    (parent?.map parentColumnName).toList).Nodup

/-- What becomes of a declaration: one column for each field besides the identity, in order, empty at
times if its type is an option, and behind them the reference to the parent; and all columns but
those of relations are written and read with the row. -/
structure Maps (compiled : Compiled) (name : String) (identity : Candidate)
    (others : List Candidate) (parent? : Option String) : Prop where
  schema : compiled.schema = ⟨name, identity.field.name,
    others.map Candidate.column ++ (parent?.map Schema.parentMarker).toList, parent?⟩
  columns : ∀ other ∈ others, other.column.name = other.columnName ∧
    other.column.field = other.field.name ∧ (other.column.nullable = true ↔ other.IsOption)
  writes : (Adapter.Code.ofCompiled compiled).writes.map (fun write => (write.column, write.field)) =
    (others.filter (!·.isRelation)).map fun other => (other.columnName, other.field.name)
  reads : (Adapter.Code.ofCompiled compiled).reads.map (fun read => (read.column, read.field)) =
    (others.filter (!·.isRelation)).map fun other => (other.columnName, other.field.name)

section Acceptance

variable {item : Item} {compiled : Compiled} {found others : List Candidate}
  {identity : Candidate} {parent? : Option String}

/-- A field that can be the identity asks for no relation. -/
theorem Candidate.FitsIdentity.suits (fits : identity.FitsIdentity) : identity.Suits := by
  refine ⟨fun _ => fits, fun _ both => ?_⟩
  have alone := fits.alone
  simp [FieldAttributes.unfitForIdentity, both.1] at alone

/-- All fields suit if the elected one can be the identity and the others ask for one relation at most
each. -/
theorem Elects.suits_iff (elects : Elects found identity others) (fits : identity.FitsIdentity) :
    (∀ candidate ∈ found, candidate.Suits) ↔ ∀ other ∈ others, other.OneRelation := by
  rw [elects.forall_mem_iff]
  constructor
  · rintro ⟨-, suits⟩ other member
    exact (suits other member).relation (elects.unmarked other member)
  · intro relations
    exact ⟨fits.suits, fun other member =>
      ⟨fun asked => absurd asked (elects.unmarked other member), fun _ => relations other member⟩⟩

theorem names_nodup_iff {name : String} {columns : List String} :
    (name :: columns ++ (parent?.map parentColumnName).toList).Nodup ↔
      (name :: columns).Nodup ∧ ∀ parent ∈ parent?, parentColumnName parent ∉ name :: columns := by
  cases parent? with
  | none => simp
  | some parent =>
    rw [Option.map_some, Option.toList_some, ← List.concat_eq_append, List.nodup_concat, and_comm]
    simp

/-- The schema of the elected field and the others is accepted if they are well formed. -/
theorem compiles_iff_wellFormed (elects : Elects found identity others)
    (target : Text.allBlank item.name = false)
    (named : Text.allBlank identity.field.name = false) :
    ((∀ candidate ∈ found, candidate.Suits) ∧ identity.FitsIdentity ∧
      ∃ compiled, Schema.build item.name (Schema.ordered identity.field.name
          (others.map Candidate.column) parent?) >>= Schema.compile = .ok compiled) ↔
      WellFormed identity others parent? := by
  have names : (others.map Candidate.column).map Column.name = others.map Candidate.columnName := by
    rw [List.map_map]
    exact List.map_congr_left fun other _ => other.name_column
  have types : (∀ column ∈ others.map Candidate.column, column.declaredType.resolve? ≠ none) ↔
      ∀ other ∈ others, other.isRelation = false →
        ∀ path, other.field.type.unwrapOption.1.declared ≠ .unsupported path := by
    simp only [List.forall_mem_map, Candidate.declaredType_column,
      Candidate.resolve?_declared_ne_none_iff]
  rw [Schema.compiles_ordered_iff, names, types, ← names_nodup_iff]
  constructor
  · rintro ⟨suits, fits, -, -, typed, distinct⟩
    exact ⟨fits, (elects.suits_iff fits).mp suits, typed, distinct⟩
  · rintro ⟨fits, relations, typed, distinct⟩
    exact ⟨(elects.suits_iff fits).mpr relations, fits, target, named, typed, distinct⟩

/-- An accepted schema has the columns of the fields, and its adapter writes and reads those that are
no relation. -/
theorem maps_of_compiles
    (compiles : Schema.build item.name (Schema.ordered identity.field.name
        (others.map Candidate.column) parent?) >>= Schema.compile = .ok compiled) :
    Maps compiled item.name identity others parent? := by
  obtain ⟨schema, built, accepted⟩ := bind_eq_ok_iff.mp compiles
  obtain ⟨-, -, same, -⟩ := Schema.compile_eq_ok_iff.mp accepted
  subst same
  have drafted := Schema.draft_of_build built
  rw [Schema.draft_ordered] at drafted
  have mapped : compiled.mapped.map ColumnPlan.column =
      (others.filter (!·.isRelation)).map Candidate.column := by
    have marker : ((parent?.map Schema.parentMarker).toList).filter
        (fun column => !column.kind.isRelation) = [] := by
      cases parent? <;> rfl
    rw [Compiled.map_column_mapped accepted, ← drafted, List.filter_append, marker,
      List.append_nil, List.filter_map]
    refine congrArg _ (List.filter_congr fun other _ => ?_)
    rw [Function.comp_apply, other.isRelation_column]
  have fields : compiled.mapped.map (fun plan => (plan.column.name, plan.column.field)) =
      (others.filter (!·.isRelation)).map fun other => (other.columnName, other.field.name) := by
    have split : (fun plan : ColumnPlan => (plan.column.name, plan.column.field)) =
        (fun column => (column.name, column.field)) ∘ ColumnPlan.column := rfl
    rw [split, ← List.map_map, mapped, List.map_map]
    refine List.map_congr_left fun other _ => ?_
    rw [Function.comp_apply, other.name_column, other.field_column]
  refine ⟨drafted.symm, fun other _ => ⟨other.name_column, other.field_column,
    other.nullable_column⟩, ?_, ?_⟩
  · rw [← fields]
    exact List.map_map
  · rw [← fields]
    exact List.map_map

end Acceptance

end Derive

/-- What a word consists of is no blank and divides no path. -/
theorem Source.IsWord.chars_solid {word : String} (isWord : IsWord word) :
    ∀ c ∈ word.toList, c ≠ ':' ∧ c ≠ '.' := by
  have part {c : Char} (part : isIdentPart c = true) : c ≠ ':' ∧ c ≠ '.' :=
    ⟨ne_of_isIdentPart part (by decide), ne_of_isIdentPart part (by decide)⟩
  have chars := isWord.chars
  generalize word.toList = cs at chars
  cases chars with
  | plain start parts =>
    exact List.forall_mem_cons.mpr ⟨part (isIdentPart_of_start start), fun c member =>
      part (parts c member)⟩
  | raw start parts =>
    exact List.forall_mem_cons.mpr ⟨by decide, List.forall_mem_cons.mpr ⟨by decide,
      List.forall_mem_cons.mpr ⟨part (isIdentPart_of_start start), fun c member =>
        part (parts c member)⟩⟩⟩

/-- A word is not blank. -/
theorem Source.IsWord.allBlank {word : String} (isWord : IsWord word) :
    Text.allBlank word = false := by
  obtain ⟨c, tail, shape, start⟩ := isWord.exists_start
  have solid : Text.isBlank c = false := by
    have gap := isGap_of_isIdentStart start
    simp only [isGap, Bool.or_eq_false_iff] at gap
    exact gap.1.1
  rw [Text.allBlank, shape, List.all_cons, solid, Bool.false_and]

/-- A word is the last segment of itself. -/
theorem Adapter.lastSegment_of_isWord {word : String} (isWord : IsWord word) :
    lastSegment word = word := by
  have solid : ∀ c ∈ word.toList.reverse, (!(c == ':' || c == '.')) = true := by
    intro c member
    have apart := isWord.chars_solid c (List.mem_reverse.mp member)
    simp [apart]
  rw [lastSegment, List.takeWhile_eq_self_iff.mpr solid, List.reverse_reverse, String.ofList_toList]

/-- The fields that a declaration gives names to. -/
def Source.Item.fields (item : Item) : List Field :=
  match item.shape with
  | .named fields => fields
  | _ => []

namespace Derive

/-- The name of a declaration and those of its fields are identifiers. In place of a field's name an
underscore is read as well, which is no name in a struct. -/
structure Written (item : Item) : Prop where
  name : IsField item.name
  fields : ∀ field ∈ item.fields, IsField field.name

instance (item : Item) : Decidable (Written item) :=
  decidable_of_iff (IsField item.name ∧ ∀ field ∈ item.fields, IsField field.name)
    ⟨fun both => ⟨both.1, both.2⟩, fun written => ⟨written.name, written.fields⟩⟩

section Written

variable {item : Item} {compiled : Compiled} {found : List Candidate} {parent? : Option String}

/-- The fields keep their order and their number. -/
theorem map_field_of_attributed {fields : List Field} (all : fields.mapM attributed = .ok found) :
    found.map Candidate.field = fields := by
  rw [mapM_eq_ok_iff] at all
  induction all with
  | nil => rfl
  | cons one _ ih =>
    obtain ⟨_, -, made⟩ := bind_eq_ok_iff.mp one
    cases made
    rw [List.map_cons, ih]

/-- The fields that are looked at are those of the declaration. -/
theorem fields_of_parsed (attributes : parsed item = .ok (found, parent?)) :
    item.fields = found.map Candidate.field := by
  obtain ⟨fields, named, attributes⟩ := bind_eq_ok_iff.mp attributes
  obtain ⟨_, -, attributes⟩ := bind_eq_ok_iff.mp attributes
  obtain ⟨_, all, made⟩ := bind_eq_ok_iff.mp attributes
  cases made
  rw [map_field_of_attributed all]
  unfold namedFields at named
  split at named
  · cases named
  · split at named
    · next shape =>
      cases named
      rw [Item.fields, shape]
    all_goals cases named

theorem Written.candidates (written : Written item)
    (attributes : parsed item = .ok (found, parent?)) :
    ∀ candidate ∈ found, IsField candidate.field.name := by
  intro candidate member
  refine written.fields candidate.field ?_
  rw [fields_of_parsed attributes]
  exact List.mem_map_of_mem member

/-- A declaration becomes an entity if one of its fields is elected and can be the identity besides
the others, and the schema is that of these fields. -/
theorem derive_eq_ok_iff_elects (written : Written item)
    (attributes : parsed item = .ok (found, parent?)) :
    derive item = .ok compiled ↔ ∃ identity others, Elects found identity others ∧
      WellFormed identity others parent? ∧
      Schema.build item.name (Schema.ordered identity.field.name
        (others.map Candidate.column) parent?) >>= Schema.compile = .ok compiled := by
  have target := written.name.word.allBlank
  have named (identity : Candidate) (others : List Candidate)
      (elects : Elects found identity others) : Text.allBlank identity.field.name = false :=
    (written.candidates attributes identity elects.mem).word.allBlank
  rw [derive_eq_ok_iff]
  constructor
  · rintro ⟨_, _, identity, others, same, suits, elects, fits, compiles⟩
    cases attributes.symm.trans same
    exact ⟨identity, others, elects, (compiles_iff_wellFormed elects target
      (named _ _ elects)).mp ⟨suits, fits, compiled, compiles⟩, compiles⟩
  · rintro ⟨identity, others, elects, formed, compiles⟩
    obtain ⟨suits, fits, -⟩ :=
      (compiles_iff_wellFormed elects target (named _ _ elects)).mpr formed
    exact ⟨found, parent?, identity, others, attributes, suits, elects, fits, compiles⟩

/-- The names that the adapter of a declaration writes bare are words that may stand there, if the
parent is a path of names. -/
theorem named_of_derive (written : Written item)
    (attributes : parsed item = .ok (found, parent?)) {path? : Option Names}
    (valid : ∀ path ∈ path?, path.Valid) (made : derive item = .ok compiled) :
    (Adapter.Code.ofCompiled compiled).Named path? := by
  obtain ⟨identity, others, elects, formed, compiles⟩ :=
    (derive_eq_ok_iff_elects written attributes).mp made
  have maps := maps_of_compiles compiles
  have fields := written.candidates attributes
  have mapped : ∀ other ∈ others.filter (!·.isRelation), IsField other.field.name :=
    fun other member => (elects.forall_mem_iff.mp fields).2 other (List.mem_of_mem_filter member)
  have among {name column : String} (member : (column, name) ∈
      (others.filter (!·.isRelation)).map fun other => (other.columnName, other.field.name)) :
      IsField name := by
    obtain ⟨other, listed, same⟩ := List.mem_map.mp member
    cases same
    exact mapped other listed
  refine ⟨?_, ?_, fun write member => ?_, fun read member => ?_, valid⟩
  · show IsField (Adapter.lastSegment compiled.schema.target)
    rw [maps.schema, Adapter.lastSegment_of_isWord written.name.word]
    exact written.name
  · show IsField compiled.schema.identity
    rw [maps.schema]
    exact fields identity elects.mem
  · exact among (maps.writes ▸ List.mem_map_of_mem member)
  · exact among (maps.reads ▸ List.mem_map_of_mem member)

/-- The source of the adapter is read, if the parent is a path of names. -/
theorem readTrees?_of_derive (written : Written item) {path? : Option Names}
    (attributes : parsed item = .ok (found, path?.map Adapter.pathText))
    (valid : ∀ path ∈ path?, path.Valid) (made : derive item = .ok compiled) :
    ∃ trees, readTrees? (Adapter.render compiled) = some trees := by
  have parent : (Adapter.Code.ofCompiled compiled).parent? = path?.map Adapter.pathText := by
    obtain ⟨identity, others, -, -, compiles⟩ :=
      (derive_eq_ok_iff_elects written attributes).mp made
    show compiled.schema.parent? = _
    rw [(maps_of_compiles compiles).schema]
  obtain ⟨position, read⟩ :=
    Adapter.readTrees?_source (named_of_derive written attributes valid made) parent
  exact ⟨_, read⟩

/-- The text of an accepted declaration is expanded to its adapter's source, as far as that is
read. -/
theorem expand_of_derive {text : String} (read : readItem? text = some item)
    (made : derive item = .ok compiled) :
    expand text = match readTrees? (Adapter.render compiled) with
      | some trees => .ok (textOf trees)
      | none => .error (.refused .unreadableSource .origin) := by
  unfold expand
  simp only [read, made, bind, Except.bind]
  generalize readTrees? (Adapter.render compiled) = trees?
  cases trees? <;> rfl

theorem expand_eq_ok_iff {text tokens : String} (read : readItem? text = some item) :
    expand text = .ok tokens ↔ ∃ compiled trees, derive item = .ok compiled ∧
      readTrees? (Adapter.render compiled) = some trees ∧ textOf trees = tokens := by
  constructor
  · intro expanded
    cases made : derive item with
    | error fault =>
      unfold expand at expanded
      simp only [read] at expanded
      rw [made] at expanded
      cases expanded
    | ok compiled =>
      rw [expand_of_derive read made] at expanded
      split at expanded
      · next trees lexed =>
        exact ⟨compiled, trees, rfl, lexed, Except.ok.inj expanded⟩
      · cases expanded
  · rintro ⟨compiled, trees, made, lexed, rfl⟩
    rw [expand_of_derive read made, lexed]

/-- Let a struct with named fields and without parameters have attributes that are well formed. It
becomes an entity exactly if a field is elected and is well formed with the others, and its columns
are those of the others. The text of the struct gives the source of the adapter, and where the
parent, if there is one, is a path of names, it does so for the same structs. -/
theorem derive_iff_wellFormed (written : Written item)
    (attributes : parsed item = .ok (found, parent?)) :
    ((∃ compiled, derive item = .ok compiled) ↔
      ∃ identity others, Elects found identity others ∧ WellFormed identity others parent?) ∧
    (∀ compiled, derive item = .ok compiled → ∃ identity others,
      Elects found identity others ∧ WellFormed identity others parent? ∧
        Maps compiled item.name identity others parent?) ∧
    ∀ text, readItem? text = some item →
      (∀ tokens, expand text = .ok tokens ↔ ∃ compiled trees, derive item = .ok compiled ∧
        readTrees? (Adapter.render compiled) = some trees ∧ textOf trees = tokens) ∧
      ∀ path? : Option Names, (∀ path ∈ path?, path.Valid) →
        parent? = path?.map Adapter.pathText →
        ((∃ tokens, expand text = .ok tokens) ↔
          ∃ identity others, Elects found identity others ∧
            WellFormed identity others parent?) := by
  have whole : (∃ compiled, derive item = .ok compiled) ↔
      ∃ identity others, Elects found identity others ∧ WellFormed identity others parent? := by
    constructor
    · rintro ⟨compiled, made⟩
      obtain ⟨identity, others, elects, formed, -⟩ :=
        (derive_eq_ok_iff_elects written attributes).mp made
      exact ⟨identity, others, elects, formed⟩
    · rintro ⟨identity, others, elects, formed⟩
      have known := (written.candidates attributes identity elects.mem).word.allBlank
      obtain ⟨-, -, compiled, compiles⟩ :=
        (compiles_iff_wellFormed elects written.name.word.allBlank known).mpr formed
      exact ⟨compiled, (derive_eq_ok_iff_elects written attributes).mpr
        ⟨identity, others, elects, formed, compiles⟩⟩
  refine ⟨whole, fun compiled made => ?_, fun text read => ⟨fun _ => expand_eq_ok_iff read, ?_⟩⟩
  · obtain ⟨identity, others, elects, formed, compiles⟩ :=
      (derive_eq_ok_iff_elects written attributes).mp made
    exact ⟨identity, others, elects, formed, maps_of_compiles compiles⟩
  · rintro path? valid rfl
    rw [← whole]
    constructor
    · rintro ⟨tokens, expanded⟩
      obtain ⟨compiled, -, made, -⟩ := (expand_eq_ok_iff read).mp expanded
      exact ⟨compiled, made⟩
    · rintro ⟨compiled, made⟩
      obtain ⟨trees, lexed⟩ := readTrees?_of_derive written attributes valid made
      exact ⟨_, (expand_eq_ok_iff read).mpr ⟨compiled, trees, made, lexed, rfl⟩⟩

end Written

/-! ## Three declarations -/

/-- A child of `shop::Order` whose fields are all besides an identity that is not marked. -/
def lineText : String :=
  "#[rowforge(child_of = shop::Order)] struct Line " ++
    "\x7b title: Option<String>, id: i64, #[rowforge(one_to_one)] note: Note \x7d"

theorem derive_iff_wellFormed_lineText : ∃ item found identity others,
    readItem? lineText = some item ∧ Written item ∧
      parsed item = .ok (found, some "shop::Order") ∧ Elects found identity others ∧
      WellFormed identity others (some "shop::Order") ∧ ∃ tokens, expand lineText = .ok tokens := by
  have facts : ((readItem? lineText).map fun item => (decide (Written item),
      (derive item).map fun compiled => compiled.schema.parent?)) =
        some (true, .ok (some "shop::Order")) := by
    decide +kernel
  obtain ⟨item, read, facts⟩ := Option.map_eq_some_iff.mp facts
  obtain ⟨written, derived⟩ := Prod.mk.inj facts
  have written := of_decide_eq_true written
  cases made : derive item with
  | error fault =>
    rw [made] at derived
    cases derived
  | ok compiled =>
    rw [made] at derived
    obtain ⟨found, parent?, -, -, attributes, -⟩ := derive_eq_ok_iff.mp made
    obtain ⟨-, columns, source⟩ := derive_iff_wellFormed written attributes
    obtain ⟨identity, others, elects, formed, maps⟩ := columns compiled made
    have parent : parent? = some "shop::Order" :=
      (congrArg Schema.parent? maps.schema).symm.trans (Except.ok.inj derived)
    subst parent
    have accepted := ((source lineText read).2 (some ⟨false, "shop", ["Order"]⟩) (by decide)
      (by decide)).mpr ⟨identity, others, elects, formed⟩
    exact ⟨item, found, identity, others, read, written, attributes, elects, formed, accepted⟩

/-- A child of `Key` whose identity has the name of the reference to its parent. -/
def keyLine : String :=
  "#[rowforge(child_of = Key)] struct Line \x7b #[rowforge(id)] Key_id: i64 \x7d"

/-- A child of a type that is applied to a blank. -/
def blankLine : String := "#[rowforge(child_of = Book<' '>)] struct Line \x7b id: i64 \x7d"

/-- The schema of the child; the blank is gone from the parent's name. -/
def blankLineCompiled : Compiled :=
  let schema := Schema.draft "Line" [.identity "id", .childOf "Book<''>"]
  let plans := schema.columns.map fun column => ColumnPlan.mk column .integer .integer
  ⟨schema, schema.definition plans, plans⟩

/-- A struct that has a single field, which is its identity and can be that, is refused if the field
has the name of the reference to the parent. Another one is accepted, but its adapter's source has
no tokens. -/
theorem keyLine_refused :
    (∃ item identity, readItem? keyLine = some item ∧ parsed item = .ok ([identity], some "Key") ∧
      identity.IsMarked ∧ identity.FitsIdentity ∧
      expand keyLine = .error (.refused (.schema (.identityCollision "Line" "Key_id")) ⟨1, 35⟩)) ∧
    ∃ item, readItem? blankLine = some item ∧ derive item = .ok blankLineCompiled ∧
      expand blankLine = .error (.refused .unreadableSource .origin) := by
  constructor
  · have facts : ((readItem? keyLine).map fun item => (parsed item).map fun found =>
        (found.1.map fun one => decide (one.IsMarked ∧ one.FitsIdentity), found.2)) =
          some (.ok ([true], some "Key")) := by
      decide +kernel
    obtain ⟨item, read, facts⟩ := Option.map_eq_some_iff.mp facts
    cases attributes : parsed item with
    | error fault =>
      rw [attributes] at facts
      cases facts
    | ok found =>
      rw [attributes] at facts
      obtain ⟨fields, parent?⟩ := found
      obtain ⟨tests, rfl⟩ := Prod.mk.inj (Except.ok.inj facts)
      obtain ⟨identity, rfl, fits⟩ := List.map_eq_singleton_iff.mp tests
      obtain ⟨marked, fits⟩ := of_decide_eq_true fits
      exact ⟨item, identity, read, attributes, marked, fits, by decide +kernel⟩
  · have made : (readItem? blankLine).map derive = some (.ok blankLineCompiled) := by
      decide +kernel
    obtain ⟨item, read, made⟩ := Option.map_eq_some_iff.mp made
    have parent : (Adapter.Code.ofCompiled blankLineCompiled).parent? =
        (some ⟨false, "Book<''>", []⟩ : Option Names).map Adapter.pathText := rfl
    have unread : readTrees? (Adapter.render blankLineCompiled) = none := by
      rw [Adapter.render, Adapter.readTrees?_of_chars (Adapter.source_chars _ parent)]
      decide +kernel
    exact ⟨item, read, made, by rw [expand_of_derive read made, unread]⟩

end Derive

end EntityTables
