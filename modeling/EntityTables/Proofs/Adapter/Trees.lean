/-
# EntityTables.Proofs.Adapter.Trees — the terms of an adapter as trees

The expressions and statements of an adapter as trees of its source, and that their pieces have the
text that the adapter is printed with.

* `ColumnTerm.tree`, `Encoding.tree`, `Decoding.tree`, `Write.tree`, `Read.tree` — the trees.
* `prints_write`, `prints_read` and the like — the text of each.
-/
import EntityTables.Adapter.Source
import EntityTables.Proofs.Source.Fitting

namespace EntityTables.Adapter

set_option autoImplicit false

open Source

/-! ## Expressions -/

/-- A path into the library that adapters are written for. -/
def libraryPath (more : List String) : Names := ⟨true, "rowforge", more⟩

/-- A path into the standard library. -/
def standardPath (more : List String) : Names := ⟨true, "std", more⟩

/-- A name alone. -/
def nameOf (name : String) : Operand := .path ⟨false, name, []⟩

/-- A text as an argument. -/
def textOf (text : String) : Expression := .operand (.text text)

/-- The expression for a declared type. -/
def typeTree (declared : DeclaredType) : Expression :=
  let path := libraryPath ["compiler", "DeclaredType", declared.label.1]
  match declared.label.2 with
  | none => .operand (.path path)
  | some carried =>
    .operand (.call path [.operand (.call (standardPath ["string", "String", "from"])
      [textOf carried])])

/-- The expression for a column. -/
def ColumnTerm.tree (term : ColumnTerm) : Operand :=
  let made := .call (libraryPath ["compiler", "ColumnDescriptor", "new"])
    [textOf term.name, typeTree term.declaredType]
  let named := match term.field? with
    | some field => .method made [] "with_field" [textOf field]
    | none => made
  if term.nullable then .method named [] "nullable" [] else named

/-- The expression that encodes a value. -/
def Encoding.tree (encoding : Encoding) (place reference : Expression) : Operand :=
  match encoding with
  | copied => .call (libraryPath ["Value", "from"]) [place]
  | text =>
    .call (libraryPath ["Value", "from"])
      [.operand (.call (standardPath ["string", "String", "as_str"]) [reference])]
  | bytes =>
    .call (libraryPath ["Value", "from"])
      [.operand (.call (standardPath ["vec", "Vec", "as_slice"]) [reference])]
  | boolean =>
    .call (libraryPath ["Value", "Integer"])
      [.operand (.call (libraryPath ["convert", "bool_to_integer"]) [place])]
  | date =>
    .call (libraryPath ["Value", "Integer"])
      [.operand (.call (libraryPath ["convert", "date_to_millis"]) [reference])]
  | object =>
    .call (libraryPath ["Value", "Blob"])
      [.operand (.ask (.call (libraryPath ["codec", "serialize"]) [reference]))]

/-- The expression that decodes what the accessor gave. -/
def Decoding.tree (decoding : Decoding) (column : String) (raw : Operand) : Expression :=
  match decoding with
  | direct => .operand raw
  | boolean => .operand (.call (libraryPath ["convert", "integer_to_bool"]) [.operand raw])
  | single => .cast raw ⟨false, "f32", []⟩
  | char =>
    .operand (.ask (.call (libraryPath ["convert", "text_to_char"])
      [textOf column, .signed '&' raw]))
  | date =>
    .operand (.ask (.call (libraryPath ["convert", "millis_to_date"])
      [textOf column, .operand raw]))
  | object => .operand (.ask (.call (libraryPath ["codec", "deserialize"]) [.signed '&' raw]))
  | narrow =>
    .operand (.ask (.call (libraryPath ["convert", "narrow"]) [textOf column, .operand raw]))

/-! ## Statements -/

/-- The statement that writes a column. -/
def Write.tree (write : Write) : Statement :=
  let field := Operand.member (nameOf "self") write.field
  let value := if write.optional then
      .choice (.signed '&' field) "v"
        (write.encoding.tree (.signed '*' (nameOf "v")) (.operand (nameOf "v")))
        (.path (libraryPath ["Value", "Null"]))
    else .operand (write.encoding.tree (.operand field) (.signed '&' field))
  .run (.method (nameOf "values") [] "put" [textOf write.column, value])

/-- The statement that reads a column. -/
def Read.tree (read : Read) : Statement :=
  let value := if read.optional then
      .choice (.operand (.ask (.method (nameOf "row") [] ("optional_" ++ read.accessor.name)
          [textOf read.column]))) "raw"
        (.call ⟨false, "Some", []⟩ [read.decoding.tree read.column (nameOf "raw")])
        (nameOf "None")
    else
      read.decoding.tree read.column
        (.ask (.method (nameOf "row") [] read.accessor.name [textOf read.column]))
  .assign (.member (nameOf "target") read.field) value

/-! ## The text of expressions -/

/-- Pieces are printed as a text, whatever follows. -/
def Prints (print : List Piece → List Piece) (text : String) : Prop :=
  ∀ after, Source.charsOf (print after) = text.toList ++ Source.charsOf after

@[simp] theorem print_absolute (first : String) (more : List String) (after : List Piece) :
    Names.print ⟨true, first, more⟩ after =
      .mark ':' :: .mark ':' :: .word first :: printMore more after := rfl

@[simp] theorem print_relative (first : String) (more : List String) (after : List Piece) :
    Names.print ⟨false, first, more⟩ after = .word first :: printMore more after := rfl

attribute [simp] Operand.print Expression.print printMore printArguments printOthers lead
  Source.charsOf Piece.chars Delimiter.opening Delimiter.closing libraryPath standardPath nameOf
  textOf

theorem prints_type (declared : DeclaredType) :
    Prints (typeTree declared).print (typeTerm declared) := by
  intro after
  unfold typeTree typeTerm
  rcases declared.label with ⟨label, none | carried⟩ <;> simp

theorem prints_column (term : ColumnTerm) : Prints term.tree.print term.source := by
  intro after
  have type := prints_type term.declaredType
  unfold Prints at type
  unfold ColumnTerm.tree ColumnTerm.source
  cases term.field? <;> cases term.nullable <;> simp [type]

theorem prints_encoding (encoding : Encoding) {place reference : Expression}
    {placeText referenceText : String} (placePrints : Prints place.print placeText)
    (referencePrints : Prints reference.print referenceText) :
    Prints (encoding.tree place reference).print (encoding.source placeText referenceText) := by
  intro after
  unfold Prints at placePrints referencePrints
  unfold Encoding.tree Encoding.source
  cases encoding <;> simp [placePrints, referencePrints]

theorem prints_decoding (decoding : Decoding) (column : String) {raw : Operand} {text : String}
    (prints : Prints raw.print text) :
    Prints (decoding.tree column raw).print (decoding.source column text) := by
  intro after
  unfold Prints at prints
  unfold Decoding.tree Decoding.source
  cases decoding <;> simp [prints]

theorem prints_write (write : Write) : Prints write.tree.print write.source := by
  intro after
  have held : Prints (Expression.signed '*' (nameOf "v")).print "*v" := fun after => by simp
  have name : Prints (Expression.operand (nameOf "v")).print "v" := fun after => by simp
  have field : Prints (Expression.operand (.member (nameOf "self") write.field)).print
      ("self." ++ write.field) := fun after => by simp
  have borrowed : Prints (Expression.signed '&' (.member (nameOf "self") write.field)).print
      ("&self." ++ write.field) := fun after => by simp
  have optional := prints_encoding write.encoding held name
  have plain := prints_encoding write.encoding field borrowed
  unfold Prints at optional plain
  unfold Write.tree Write.source
  cases write.optional
  · simp at plain
    simp [Statement.print, plain]
  · simp at optional
    simp [Statement.print, optional]

theorem prints_read (read : Read) : Prints read.tree.print read.source := by
  intro after
  have name : Prints (nameOf "raw").print "raw" := fun after => by simp
  have call : Prints
      (Operand.ask (.method (nameOf "row") [] read.accessor.name [textOf read.column])).print
      ("row." ++ read.accessor.name ++ "(" ++ Text.quoted read.column ++ ")?") :=
    fun after => by simp
  have optional := prints_decoding read.decoding read.column name
  have plain := prints_decoding read.decoding read.column call
  unfold Prints at optional plain
  unfold Read.tree Read.source
  cases read.optional
  · simp at plain
    simp [Statement.print, plain]
  · simp at optional
    simp [Statement.print, optional]

end EntityTables.Adapter
