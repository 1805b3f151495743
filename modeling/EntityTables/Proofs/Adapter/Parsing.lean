/-
# EntityTables.Proofs.Adapter.Parsing — an adapter is one implementation

The functions of an adapter are read from its text, the header and the body of each, if the names
that it writes bare are identifiers. A schema is accepted with other names as well, and then its
adapter may be no implementation at all.

* `Code.Named` — the names that an adapter writes bare are words that may stand there.
* `reads_methods_of_named`, `fits_methods` — its functions are read, and keep apart.
* `render_isImplementation` — the adapter of an accepted schema; `spacedKey_accepted` — one that is
  no implementation.
-/
import EntityTables.Proofs.Adapter.Functions
import EntityTables.Proofs.Schema.Definition
import EntityTables.Proofs.Schema.Stored

namespace EntityTables.Adapter

set_option autoImplicit false

open Source Source.Reading

section Headers

variable (code : Code) (m : Nat)

theorem reads_typePath : (typePathMethod code).Reads (.nested (m + 12)) where
  header _ _ _ := ⟨_, _, _, trivial, rfl⟩
  plain := rfl
  inner position _ := ⟨_, position, _, trivial, rfl⟩

theorem reads_identityHeader (after : List Piece) :
    Reads (readSignature (.nested (m + 12)) false) ((identityMethod code).print after)
      (fun _ => True) (.group .brace (identityMethod code).inner :: after) :=
  fun _ _ => ⟨_, _, _, trivial, rfl⟩

theorem reads_setIdentityHeader (after : List Piece) :
    Reads (readSignature (.nested (m + 12)) false) ((setIdentityMethod code).print after)
      (fun _ => True) (.group .brace (setIdentityMethod code).inner :: after) :=
  fun _ _ => ⟨_, _, _, trivial, rfl⟩

theorem reads_schemaHeader (parent? : Option Names) (after : List Piece) :
    Reads (readSignature (.nested (m + 12)) false) ((schemaMethod code parent?).print after)
      (fun _ => True) (.group .brace (schemaMethod code parent?).inner :: after) :=
  fun _ _ => ⟨_, _, _, trivial, rfl⟩

theorem reads_encodeHeader (after : List Piece) :
    Reads (readSignature (.nested (m + 12)) false) ((encodeMethod code).print after)
      (fun _ => True) (.group .brace (encodeMethod code).inner :: after) :=
  fun _ _ => ⟨_, _, _, trivial, rfl⟩

theorem reads_decodeHeader (after : List Piece) :
    Reads (readSignature (.nested (m + 12)) false) ((decodeMethod code).print after)
      (fun _ => True) (.group .brace (decodeMethod code).inner :: after) :=
  fun _ _ => ⟨_, _, _, trivial, rfl⟩

end Headers

/-! ## The names of an adapter -/

section Names

theorem valid_word {name : String} (field : IsField name) : (⟨false, name, []⟩ : Names).Valid where
  words _ member := List.mem_singleton.mp member ▸ field.word
  named _ member := List.mem_singleton.mp member ▸ isName_of_isIdentifier field.named

/-- The label of a declared type is an identifier. -/
theorem label_isField (declared : DeclaredType) : IsField declared.label.1 := by
  cases declared with
  | integer type => cases type <;> decide
  | float precision => cases precision <;> decide
  | object => exact (by decide : IsField "Object")
  | oneToOne => exact (by decide : IsField "OneToOne")
  | oneToMany => exact (by decide : IsField "OneToMany")
  | unsupported => exact (by decide : IsField "Unsupported")
  | _ => decide

theorem valid_type (declared : DeclaredType) : (typeTree declared).Valid := by
  have label := label_isField declared
  have path : (libraryPath ["compiler", "DeclaredType", declared.label.1]).Valid := by
    constructor <;> intro name member <;>
      simp only [libraryPath, List.mem_cons, List.not_mem_nil, or_false] at member <;>
      rcases member with rfl | rfl | rfl | rfl
    all_goals first | decide | exact label.word | exact isName_of_isIdentifier label.named
  unfold typeTree
  cases declared.label.2 with
  | none => exact path
  | some carried => exact ⟨path, ⟨by decide, trivial, trivial⟩, trivial⟩

theorem depth_type (declared : DeclaredType) : (typeTree declared).depth ≤ 3 := by
  unfold typeTree
  cases declared.label.2 <;> simp [Expression.depth, Operand.depth, depthOf]

theorem valid_column (term : ColumnTerm) : term.tree.Valid := by
  have type := valid_type term.declaredType
  unfold ColumnTerm.tree
  cases term.field? <;> cases term.nullable <;>
    simp [Operand.Valid, AllValid, Expression.Valid, type] <;> decide

theorem depth_column (term : ColumnTerm) : term.tree.depth ≤ 3 := by
  have type := depth_type term.declaredType
  unfold ColumnTerm.tree
  cases term.field? <;> cases term.nullable <;>
    simp [Operand.depth, Expression.depth, depthOf, type]

theorem valid_encoding (encoding : Encoding) {place reference : Expression}
    (placeValid : place.Valid) (referenceValid : reference.Valid) : (encoding.tree place reference).Valid := by
  unfold Encoding.tree
  cases encoding <;>
    simp [Operand.Valid, AllValid, Expression.Valid, placeValid, referenceValid] <;> decide

theorem depth_encoding (encoding : Encoding) {place reference : Expression}
    (placeDeep : place.depth ≤ 2) (referenceDeep : reference.depth ≤ 2) :
    (encoding.tree place reference).depth ≤ 3 := by
  unfold Encoding.tree
  cases encoding <;> simp only [Operand.depth, Expression.depth, depthOf] <;> omega

theorem valid_decoding (decoding : Decoding) (column : String) {raw : Operand}
    (valid : raw.Valid) : (decoding.tree column raw).Valid := by
  unfold Decoding.tree
  cases decoding <;> simp [Operand.Valid, AllValid, Expression.Valid, valid] <;> decide

theorem depth_decoding (decoding : Decoding) (column : String) {raw : Operand}
    (deep : raw.depth ≤ 1) : (decoding.tree column raw).depth ≤ 4 := by
  unfold Decoding.tree
  cases decoding <;> simp only [Operand.depth, Expression.depth, depthOf, textOf] <;> omega

theorem begins_name {name : String} (operand : Operand)
    (root : operand.root? = some ⟨false, name, []⟩)
    (plain : (⟨false, name, []⟩ : Names).declares = false) : operand.Begins := ⟨_, root, plain⟩

theorem valid_name (name : String) (valid : (⟨false, name, []⟩ : Names).Valid) :
    (nameOf name).Valid := valid

theorem valid_write {write : Write} (field : IsField write.field) : write.tree.Valid := by
  have plain : (Expression.operand (.member (nameOf "self") write.field)).Valid :=
    ⟨valid_name "self" (by decide), field⟩
  have borrowed : (Expression.signed '&' (.member (nameOf "self") write.field)).Valid :=
    ⟨.inl rfl, plain⟩
  have value : (Expression.operand (nameOf "v")).Valid := valid_name "v" (by decide)
  have held : (Expression.signed '*' (nameOf "v")).Valid := ⟨.inr rfl, value⟩
  have null : (Operand.path (libraryPath ["Value", "Null"])).Valid :=
    (by decide : (libraryPath ["Value", "Null"]).Valid)
  unfold Write.tree
  cases write.optional with
  | false =>
    exact ⟨⟨valid_name "values" (by decide), nofun, by decide, trivial,
      valid_encoding write.encoding plain borrowed, trivial⟩,
      begins_name _ rfl rfl⟩
  | true =>
    exact ⟨⟨valid_name "values" (by decide), nofun, by decide, trivial,
      ⟨borrowed, by decide, valid_encoding write.encoding held value, null⟩, trivial⟩,
      begins_name _ rfl rfl⟩

theorem depth_write (write : Write) : write.tree.depth ≤ 8 := by
  have held := depth_encoding write.encoding
    (by decide : (Expression.signed '*' (nameOf "v")).depth ≤ 2)
    (by decide : (Expression.operand (nameOf "v")).depth ≤ 2)
  have plain := depth_encoding write.encoding
    (show (Expression.operand (.member (nameOf "self") write.field)).depth ≤ 2 by
      simp [Operand.depth, Expression.depth])
    (show (Expression.signed '&' (.member (nameOf "self") write.field)).depth ≤ 2 by
      simp [Operand.depth, Expression.depth])
  unfold Write.tree
  cases write.optional <;>
    simp [Statement.depth, Operand.depth, Expression.depth, depthOf] at * <;> omega

theorem accessor_isField (accessor : Accessor) :
    IsField accessor.name ∧ IsField ("optional_" ++ accessor.name) := by
  cases accessor <;> decide

theorem valid_read {read : Read} (field : IsField read.field) : read.tree.Valid := by
  have target : (Operand.member (nameOf "target") read.field).Valid :=
    ⟨valid_name "target" (by decide), field⟩
  obtain ⟨plain, optional⟩ := accessor_isField read.accessor
  have row := valid_name "row" (by decide)
  unfold Read.tree
  refine ⟨target, begins_name _ rfl rfl, ?_⟩
  cases read.optional with
  | false =>
    have call : (Operand.ask (.method (nameOf "row") [] read.accessor.name
        [textOf read.column])).Valid := ⟨row, nofun, plain, trivial, trivial⟩
    exact valid_decoding read.decoding read.column call
  | true =>
    exact ⟨⟨row, nofun, optional, trivial, trivial⟩, by decide,
      ⟨by decide, valid_decoding read.decoding read.column (valid_name "raw" (by decide)), trivial⟩,
      valid_name "None" (by decide)⟩

theorem depth_read (read : Read) : read.tree.depth ≤ 9 := by
  have held := depth_decoding read.decoding read.column (by decide : (nameOf "raw").depth ≤ 1)
  have plain := depth_decoding read.decoding read.column
    (show (Operand.ask (.method (nameOf "row") [] read.accessor.name
        [textOf read.column])).depth ≤ 1 by
      simp [Operand.depth, Expression.depth, depthOf])
  unfold Read.tree
  cases read.optional <;>
    simp [Statement.depth, Operand.depth, Expression.depth, depthOf] at * <;> omega

end Names

/-! ## The bodies of an adapter -/

/-- The names that an adapter writes bare are words that may stand there. -/
structure Code.Named (code : Code) (parent? : Option Names) : Prop where
  typeName : IsField code.typeName
  identity : IsField code.identity
  writes : ∀ write ∈ code.writes, IsField write.field
  reads : ∀ read ∈ code.reads, IsField read.field
  parent : ∀ path ∈ parent?, path.Valid

section Bodies

theorem SchemaCall.name_isField (call : SchemaCall) : IsField call.name := by
  cases call with
  | identity _ => exact (by decide : IsField "identity")
  | column _ => exact (by decide : IsField "column")
  | childOf _ => exact (by decide : IsField "child_of")
  | build => decide

theorem SchemaCall.valid_arguments {call : SchemaCall}
    (parent : ∀ path, call = .childOf path → path.Valid) : AllValid call.arguments := by
  cases call with
  | identity name => exact ⟨trivial, trivial⟩
  | column term => exact ⟨valid_column term, trivial⟩
  | childOf path => exact ⟨⟨parent path rfl, by decide, by decide⟩, trivial⟩
  | build => trivial

theorem SchemaCall.depth_arguments (call : SchemaCall) : depthOf call.arguments ≤ 4 := by
  cases call with
  | column term =>
    exact Nat.max_le.mpr ⟨Nat.succ_le_succ (depth_column term), Nat.zero_le _⟩
  | _ => simp [SchemaCall.arguments, depthOf, Expression.depth, Operand.depth]

theorem valid_chain {calls : List SchemaCall} {begun : Operand} (valid : begun.Valid)
    (all : ∀ call ∈ calls, AllValid call.arguments) : (chain begun calls).Valid := by
  induction calls generalizing begun with
  | nil => exact valid
  | cons call calls ih =>
    exact ih ⟨valid, forall_mem_of_all (by decide), call.name_isField, all call List.mem_cons_self⟩
      fun other member => all other (.tail _ member)

theorem depth_chain {calls : List SchemaCall} {begun : Operand} (deep : begun.depth ≤ 4) :
    (chain begun calls).depth ≤ 4 := by
  induction calls generalizing begun with
  | nil => exact deep
  | cons call calls ih => exact ih (Nat.max_le.mpr ⟨deep, call.depth_arguments⟩)

theorem root_chain (calls : List SchemaCall) (begun : Operand) :
    (chain begun calls).root? = begun.root? := by
  induction calls generalizing begun with
  | nil => rfl
  | cons call calls ih => exact ih _

variable {code : Code} {parent? : Option Names} {m : Nat}

theorem valid_schemaBody (named : code.Named parent?) :
    (schemaBody code parent?).Valid (m + 11) where
  statements := nofun
  value := by
    rintro _ ⟨⟩
    refine ⟨valid_chain ⟨by decide, ⟨by decide, trivial⟩, trivial⟩ fun call member => ?_,
      ⟨_, root_chain _ _, rfl⟩, ?_⟩
    · refine call.valid_arguments fun path same => named.parent path ?_
      subst same
      cases parent? <;> simp_all [schemaCalls]
    · exact Nat.le_trans (Nat.add_le_add_right (depth_chain (by decide)) 2) (by omega)

theorem valid_identityBody (named : code.Named parent?) :
    Body.Valid ⟨[], some (.member (nameOf "self") code.identity)⟩ (m + 11) where
  statements := nofun
  value := by
    rintro _ ⟨⟩
    exact ⟨⟨valid_name "self" (by decide), named.identity⟩, begins_name _ rfl rfl,
      Nat.le_add_left 2 _⟩

theorem valid_setIdentityBody (named : code.Named parent?) :
    Body.Valid ⟨[.assign (.member (nameOf "self") code.identity)
      (.operand (nameOf "identity"))], none⟩ (m + 11) where
  statements := by
    intro statement member
    cases List.mem_singleton.mp member
    exact ⟨⟨⟨valid_name "self" (by decide), named.identity⟩, begins_name _ rfl rfl,
      valid_name "identity" (by decide)⟩, Nat.le_add_left 3 _⟩
  value := nofun

theorem valid_encodeBody (named : code.Named parent?) :
    (encodeBody code.writes).Valid (m + 11) := by
  have fresh : (Operand.call (libraryPath ["RowValues", "new"]) []).Valid := ⟨by decide, trivial⟩
  have result (operand : Operand) (valid : operand.Valid) (deep : operand.depth ≤ 0) :
      (Operand.call ⟨false, "Ok", []⟩ [.operand operand]).Valid ∧
        (Operand.call ⟨false, "Ok", []⟩ [.operand operand]).Begins ∧
        (Operand.call ⟨false, "Ok", []⟩ [.operand operand]).depth + 2 ≤ m + 11 := by
    refine ⟨⟨by decide, valid, trivial⟩, begins_name _ rfl rfl, ?_⟩
    simp only [Operand.depth, depthOf, Expression.depth]
    omega
  unfold encodeBody
  cases code.writes.isEmpty with
  | true =>
    refine ⟨fun _ member => absurd member List.not_mem_nil, ?_⟩
    rintro _ ⟨⟩
    exact result _ fresh (Nat.le_refl 0)
  | false =>
    refine ⟨?_, ?_⟩
    · rintro statement (_ | ⟨_, member⟩)
      · exact ⟨⟨by decide, fresh⟩, Nat.le_add_left 1 _⟩
      · obtain ⟨write, listed, rfl⟩ := List.mem_map.mp member
        exact ⟨valid_write (named.writes write listed),
          Nat.le_trans (depth_write write) (by omega)⟩
    · rintro _ ⟨⟩
      exact result _ (valid_name "values" (by decide)) (Nat.le_refl 0)

theorem valid_decodeBody (named : code.Named parent?) : (decodeBody code).Valid (m + 11) where
  statements := by
    rintro statement (_ | ⟨_, member⟩)
    · exact ⟨⟨⟨valid_name "target" (by decide), named.identity⟩, begins_name _ rfl rfl,
        ⟨valid_name "row" (by decide), nofun, by decide, trivial, trivial⟩⟩, Nat.le_add_left 4 _⟩
    · obtain ⟨read, listed, rfl⟩ := List.mem_map.mp member
      exact ⟨valid_read (named.reads read listed), Nat.le_trans (depth_read read) (by omega)⟩
  value := by
    rintro _ ⟨⟩
    exact ⟨⟨by decide, trivial, trivial⟩, begins_name _ rfl rfl, Nat.le_add_left 3 _⟩

/-! ## The functions of an adapter -/

/-- A function is read if its header and its body are. -/
theorem reads_of_body {header : List Piece} {body : Body} (valid : body.Valid m)
    (read : ∀ after, Reads (readSignature (.nested (m + 1)) false)
      (Method.print ⟨header, body.print⟩ after) (fun _ => True)
      (.group .brace body.print :: after)) :
    Method.Reads ⟨header, body.print⟩ (.nested (m + 1)) :=
  ⟨read, isMark_body valid, reads_body_print valid⟩

/-- Every function of an adapter is read. -/
theorem reads_methods_of_named (named : code.Named parent?) :
    ∀ method ∈ methods code parent?, method.Reads (.nested (m + 12)) := by
  unfold methods
  simp only [List.forall_mem_cons]
  exact ⟨reads_typePath code m,
    reads_of_body (valid_schemaBody named) (reads_schemaHeader code m parent?),
    reads_of_body (valid_identityBody named) (reads_identityHeader code m),
    reads_of_body (valid_setIdentityBody named) (reads_setIdentityHeader code m),
    reads_of_body (valid_encodeBody named) (reads_encodeHeader code m),
    reads_of_body (valid_decodeBody named) (reads_decodeHeader code m), nofun⟩

/-- The pieces of every function of an adapter keep apart. -/
theorem fits_methods (named : code.Named parent?) :
    ∀ method ∈ methods code parent?, method.Fits := by
  have constant {pieces : List Piece} (fits : decide (Fit pieces) = true) : Fit pieces :=
    of_decide_eq_true fits
  unfold methods
  simp only [List.forall_mem_cons]
  exact ⟨⟨constant rfl, constant rfl⟩, ⟨constant rfl, fit_body (valid_schemaBody (m := 0) named)⟩,
    ⟨constant rfl, fit_body (valid_identityBody (m := 0) named)⟩,
    ⟨constant rfl, fit_body (valid_setIdentityBody (m := 0) named)⟩,
    ⟨constant rfl, fit_body (valid_encodeBody (m := 0) named)⟩,
    ⟨constant rfl, fit_body (valid_decodeBody (m := 0) named)⟩, nofun⟩

end Bodies

/-! ## The whole of an adapter -/

/-- An implementation behind its attributes; whether it is of the usual kind. -/
def implementation : Reading Bool := do
  let g := grammarFor (← upcoming)
  skipAttributes g
  readImplementation g

/-- A text is one implementation, and nothing else. -/
def IsImplementation (text : String) : Prop :=
  (do whole implementation (← readTrees? text)) = some true

instance (text : String) : Decidable (IsImplementation text) :=
  inferInstanceAs (Decidable (_ = _))

section Implementation

variable {code : Code} {parent? : Option Names}

/-- The pieces of an adapter. -/
def piecesOf (code : Code) (parent? : Option Names) : List Piece :=
  printImplementation (libraryPath ["Entity"]) ⟨false, code.typeName, []⟩ (methods code parent?)

/-- The tokens of an adapter are those of its pieces. -/
theorem readTrees?_source (named : code.Named parent?)
    (parent : code.parent? = parent?.map pathText) :
    ∃ position, readTrees? code.source = some (treesAt position (piecesOf code parent?)) := by
  have comment : Skipped "// Generated by rowforge. Do not modify!\n".toList :=
    skipped_comment " Generated by rowforge. Do not modify!".toList
      (forall_mem_of_all (by decide)) (by rintro _ ⟨⟩; decide)
  have fit : Fit (piecesOf code parent?) :=
    fit_implementation (by decide) (valid_word named.typeName) (fits_methods named)
  exact ⟨_, readTrees?_pieces comment fit (by rintro _ ⟨⟩; decide) (by decide)
    (source_chars code parent)⟩

/-- The adapter is one implementation if the names that it writes bare are words that may stand
there. -/
theorem isImplementation_of_named (named : code.Named parent?)
    (parent : code.parent? = parent?.map pathText) : IsImplementation code.source := by
  obtain ⟨position, trees⟩ := readTrees?_source named parent
  have read : Reads implementation (piecesOf code parent?) (· = true) [] := by
    refine reads_upcoming fun position => reads_bind (reads_skipAttributes rfl) fun _ _ => ?_
    exact Reads.leave_gap (reads_implementation (m := _ + 15) rfl (by decide)
      (valid_word named.typeName) (reads_methods_of_named named))
  obtain ⟨value, rfl, ran⟩ := read.whole position
  rw [IsImplementation, trees]
  exact ran

/-- The adapter of an accepted schema is one implementation if the target's last name, the identity
and the fields that are written with the row are identifiers, and the parent, if there is one, is a
path of names. -/
theorem render_isImplementation {schema : Schema} {compiled : Compiled}
    (accepted : schema.compile = .ok compiled) (typeName : IsField (lastSegment schema.target))
    (identity : IsField schema.identity)
    (fields : ∀ column ∈ schema.columns, column.kind.isRelation = false → IsField column.field)
    (parent : schema.parent? = parent?.map pathText) (names : ∀ path ∈ parent?, path.Valid) :
    IsImplementation (render compiled) := by
  obtain ⟨-, -, same, -⟩ := Schema.compile_eq_ok_iff.mp accepted
  have mapped : ∀ plan ∈ compiled.mapped, IsField plan.column.field := by
    intro plan member
    have column : plan.column ∈ schema.columns.filter fun column => !column.kind.isRelation :=
      Compiled.map_column_mapped accepted ▸ List.mem_map_of_mem member
    obtain ⟨among, relation⟩ := List.mem_filter.mp column
    exact fields plan.column among ((Bool.not_eq_true' _).mp relation)
  subst same
  refine isImplementation_of_named ⟨typeName, identity, ?_, ?_, names⟩ parent
  · intro write member
    obtain ⟨plan, planned, rfl⟩ := List.mem_map.mp member
    exact mapped plan planned
  · intro read member
    obtain ⟨plan, planned, rfl⟩ := List.mem_map.mp member
    exact mapped plan planned

/-- A schema with a parent, a field that is written with the row and one that is not. -/
def orderLine : Schema :=
  ⟨"shop::Line", "id", [.ofField "title" .text, .ofField "gift note" (.oneToOne "shop::Note"),
    Schema.parentMarker "shop::Order"], some "shop::Order"⟩

theorem render_isImplementation_orderLine : ∃ compiled,
    orderLine.compile = .ok compiled ∧ IsImplementation (render compiled) := by
  let plans : List ColumnPlan := [⟨.ofField "title" .text, .text, .text⟩,
    ⟨.ofField "gift note" (.oneToOne "shop::Note"), .integer, .integer⟩,
    ⟨Schema.parentMarker "shop::Order", .integer, .integer⟩]
  have compiles : orderLine.compile = .ok ⟨orderLine, orderLine.definition plans, plans⟩ :=
    Schema.compile_eq_ok_iff.mpr ⟨by decide, by decide, rfl, rfl⟩
  have names : ∀ path ∈ some (⟨false, "shop", ["Order"]⟩ : Names), path.Valid := by decide
  exact ⟨_, compiles, render_isImplementation compiles (by decide) (by decide) (by decide)
    (by decide) names⟩

/-- A schema whose identity has a blank in its name. -/
def spacedKey : Schema := ⟨"shop::Line", "row id", [], none⟩

theorem readTrees?_of_chars {text : String} {chars : List Char}
    (shape : text.toList = '/' :: chars) :
    readTrees? text = (readTreesUntil none (('/' :: chars).length + 1) Position.origin
      ('/' :: chars)).map (·.1) := by
  unfold readTrees?
  rw [shape]
  rfl

/-- It is read and accepted, and its adapter is no implementation. -/
theorem spacedKey_accepted :
    Schema.ofText? ("\x7b\"target_type\":\"shop::Line\",\"identity_column\":\"row id\"," ++
        "\"columns\":[]\x7d") = some spacedKey ∧
      ∃ compiled, spacedKey.compile = .ok compiled ∧ ¬ IsImplementation (render compiled) := by
  have compiles : spacedKey.compile = .ok ⟨spacedKey, spacedKey.definition [], []⟩ :=
    Schema.compile_eq_ok_iff.mpr ⟨by decide, by decide, rfl, rfl⟩
  refine ⟨Schema.ofText?_of_chars (by decide +kernel), _, compiles, ?_⟩
  have parent : (Code.ofCompiled ⟨spacedKey, spacedKey.definition [], []⟩).parent? =
      (none : Option Names).map pathText := rfl
  have read := readTrees?_of_chars (source_chars _ parent)
  rw [IsImplementation, render, read]
  decide +kernel

end Implementation

end EntityTables.Adapter
