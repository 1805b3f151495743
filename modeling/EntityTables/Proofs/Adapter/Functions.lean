/-
# EntityTables.Proofs.Adapter.Functions — the functions of an adapter as trees

Every function of an adapter as a tree of its source, and the whole text as the pieces of these
trees.

* `methods` — the functions of an adapter; `chain` — the calls that state the schema again.
* `lines_method` — the lines of a function from the text of its header and of its body.
* `source_chars` — the text of an adapter is that of an implementation.
-/
import EntityTables.Proofs.Adapter.Evaluation
import EntityTables.Proofs.Adapter.Trees

namespace EntityTables.Adapter

set_option autoImplicit false

open Source

/-! ## Functions -/

/-- The function that names the type's path, made by an invocation that is not looked into. -/
def typePathMethod (code : Code) : Method where
  header := [.word "type_path", .group .paren [], .gap [' '], .mark '-', .mark '>', .gap [' '],
    .mark '&', .lifetime "static", .gap [' '], .word "str"]
  inner := [.gap (indent 2), .word "concat", .mark '!', .group .paren [.word "module_path",
    .mark '!', .group .paren [], .mark ',', .gap [' '], .quoted "::", .mark ',', .gap [' '],
    .quoted code.typeName], .gap (indent 1)]

/-- A call by which the schema is stated again. -/
inductive SchemaCall where
  | identity (name : String)
  | column (term : ColumnTerm)
  | childOf (parent : Names)
  | build

/-- The method that a call is of. -/
def SchemaCall.name : SchemaCall → String
  | identity _ => "identity"
  | column _ => "column"
  | childOf _ => "child_of"
  | build => "build"

/-- What the method is given. -/
def SchemaCall.arguments : SchemaCall → List Expression
  | identity name => [textOf name]
  | column term => [.operand term.tree]
  | childOf parent => [.operand (.associated parent (libraryPath ["Entity"]) "type_path")]
  | build => []

/-- Calls one behind the other, each on a line of its own. -/
def chain (begun : Operand) (calls : List SchemaCall) : Operand :=
  calls.foldl (fun made call => .method made (indent 3) call.name call.arguments) begun

/-- The calls that state a schema again. -/
def schemaCalls (code : Code) (parent? : Option Names) : List SchemaCall :=
  .identity code.identity :: (code.columns.map .column ++
    ((parent?.map SchemaCall.childOf).toList ++ [.build]))

/-- The body that states the schema again. -/
def schemaBody (code : Code) (parent? : Option Names) : Body :=
  ⟨[], some (chain (.call (libraryPath ["compiler", "SchemaModel", "builder"])
    [.operand (.call ⟨false, "Self", ["type_path"]⟩ [])]) (schemaCalls code parent?))⟩

/-- The function that states the schema again. -/
def schemaMethod (code : Code) (parent? : Option Names) : Method where
  header := .word "schema_model" :: .group .paren [] :: .gap [' '] :: .mark '-' :: .mark '>' ::
    .gap [' '] :: (standardPath ["result", "Result"]).print (.mark '<' ::
      (libraryPath ["compiler", "SchemaModel"]).print (.mark ',' :: .gap [' '] ::
        (libraryPath ["compiler", "SchemaError"]).print [.mark '>']))
  inner := (schemaBody code parent?).print

/-- The function that gives the identity. -/
def identityMethod (code : Code) : Method where
  header := [.word "identity", .group .paren [.mark '&', .word "self"], .gap [' '], .mark '-',
    .mark '>', .gap [' '], .word "i64"]
  inner := Body.print ⟨[], some (.member (nameOf "self") code.identity)⟩

/-- The function that takes the identity. -/
def setIdentityMethod (code : Code) : Method where
  header := [.word "set_identity", .group .paren [.mark '&', .word "mut", .gap [' '], .word "self",
    .mark ',', .gap [' '], .word "identity", .mark ':', .gap [' '], .word "i64"]]
  inner := Body.print ⟨[.assign (.member (nameOf "self") code.identity)
    (.operand (nameOf "identity"))], none⟩

/-- The body that writes a record's columns. -/
def encodeBody (writes : List Write) : Body :=
  if writes.isEmpty then
    ⟨[], some (.call ⟨false, "Ok", []⟩ [.operand (.call (libraryPath ["RowValues", "new"]) [])])⟩
  else
    ⟨.declare "values" (.operand (.call (libraryPath ["RowValues", "new"]) [])) ::
      writes.map Write.tree, some (.call ⟨false, "Ok", []⟩ [.operand (nameOf "values")])⟩

/-- The function that writes a record's columns. -/
def encodeMethod (code : Code) : Method where
  header := .word "encode" :: .group .paren [.mark '&', .word "self"] :: .gap [' '] :: .mark '-' ::
    .mark '>' :: .gap [' '] :: (libraryPath ["Result"]).print (.mark '<' ::
      (libraryPath ["RowValues"]).print [.mark '>'])
  inner := (encodeBody code.writes).print

/-- The body that reads a row into a record, the identity first. -/
def decodeBody (code : Code) : Body :=
  ⟨.assign (.member (nameOf "target") code.identity)
      (.operand (.ask (.method (nameOf "row") [] "integer" [textOf code.identity]))) ::
    code.reads.map Read.tree, some (.call ⟨false, "Ok", []⟩ [.operand .unit])⟩

/-- The function that reads a row into a record. -/
def decodeMethod (code : Code) : Method where
  header := .word "map_row" :: .group .paren (.word "row" :: .mark ':' :: .gap [' '] :: .mark '&' ::
      (libraryPath ["Row"]).print (.mark ',' :: .gap [' '] :: .word "target" :: .mark ':' ::
        .gap [' '] :: .mark '&' :: .word "mut" :: .gap [' '] :: [.word "Self"])) :: .gap [' '] ::
    .mark '-' :: .mark '>' :: .gap [' '] :: (libraryPath ["Result"]).print
      [.mark '<', .group .paren [], .mark '>']
  inner := (decodeBody code).print

/-- The functions of an adapter. -/
def methods (code : Code) (parent? : Option Names) : List Method :=
  [typePathMethod code, schemaMethod code parent?, identityMethod code, setIdentityMethod code,
    encodeMethod code, decodeMethod code]

/-! ## The text of functions -/

/-- The text of a path. -/
def pathText (path : Names) : String :=
  (if path.absolute then "::" else "") ++ path.first ++ String.join (path.more.map ("::" ++ ·))

theorem prints_path (path : Names) : Prints path.print (pathText path) := by
  intro after
  obtain ⟨absolute, first, more⟩ := path
  have rest : Source.charsOf (Source.printMore more after) =
      (String.join (more.map ("::" ++ ·))).toList ++ Source.charsOf after := by
    induction more with
    | nil => rfl
    | cons name more ih => simp [ih, String.toList_join]
  cases absolute <;> simp [pathText, rest]

@[simp] theorem charsOf_nil : charsOf [] = [] := rfl

@[simp] theorem charsOf_line (line : Line) (lines : List Line) :
    charsOf (line :: lines) = line.text.toList ++ charsOf lines := rfl

@[simp] theorem charsOf_lines (lines more : List Line) :
    charsOf (lines ++ more) = charsOf lines ++ charsOf more := List.flatMap_append

/-- A line that is not empty, with its indentation. -/
theorem chars_line (depth : Nat) {text : String} (some : text ≠ "") :
    (Line.text (depth, text)).toList =
      List.replicate (4 * depth) ' ' ++ (text.toList ++ ['\n']) := by
  have blanks : (String.join (List.replicate depth "    ")).toList =
      List.replicate (4 * depth) ' ' := by
    rw [String.toList_join]
    induction depth with
    | zero => rfl
    | succ depth ih =>
      show "    ".toList ++ (List.replicate depth "    ").flatMap String.toList =
        ' ' :: ' ' :: ' ' :: ' ' :: List.replicate (4 * depth) ' '
      rw [ih]
      rfl
  simp [Line.text, some, blanks]

section Texts

variable {after : List Piece}

/-- Statements, each on a line of its own. -/
theorem prints_statements {α : Type} {tree : α → Statement} {source : α → String}
    (prints : ∀ item, Prints (tree item).print (source item)) (some : ∀ item, source item ≠ "")
    (items : List α) (blanks : List Char) (after : List Piece) :
    Source.charsOf (printStatements (items.map tree) (.gap ('\n' :: blanks) :: after)) =
      '\n' :: (charsOf (items.map fun item => (2, source item)) ++
        (blanks ++ Source.charsOf after)) := by
  induction items with
  | nil => simp [printStatements]
  | cons item items ih =>
    have first := prints item
    unfold Prints at first
    simp [printStatements, indent, first, ih, chars_line, some]

/-- The line of a call. -/
def SchemaCall.line : SchemaCall → String
  | identity name => ".identity(" ++ Text.quoted name ++ ")"
  | column term => ".column(" ++ term.source ++ ")"
  | childOf parent => ".child_of(<" ++ pathText parent ++ " as ::rowforge::Entity>::type_path())"
  | build => ".build()"

theorem prints_call (call : SchemaCall) :
    Source.charsOf (.mark '.' :: .word call.name :: .group .paren (printArguments call.arguments) ::
      after) = call.line.toList ++ Source.charsOf after := by
  cases call with
  | identity name => simp [SchemaCall.name, SchemaCall.arguments, SchemaCall.line]
  | column term =>
    have column := prints_column term
    unfold Prints at column
    simp [SchemaCall.name, SchemaCall.arguments, SchemaCall.line, column]
  | childOf parent =>
    have named := prints_path parent
    unfold Prints at named
    simp [SchemaCall.name, SchemaCall.arguments, SchemaCall.line, named]
  | build => simp [SchemaCall.name, SchemaCall.arguments, SchemaCall.line]

theorem SchemaCall.line_ne (call : SchemaCall) : call.line ≠ "" := by
  cases call <;> simp [SchemaCall.line]

theorem prints_chain (calls : List SchemaCall) {begun : Operand} {text : String}
    (prints : Prints begun.print text) (blanks : List Char) (after : List Piece) :
    Source.charsOf ((chain begun calls).print (.gap ('\n' :: blanks) :: after)) =
      text.toList ++ '\n' ::
        (charsOf (calls.map fun call => (3, call.line)) ++ (blanks ++ Source.charsOf after)) := by
  induction calls generalizing begun text with
  | nil => exact prints _
  | cons call calls ih =>
    have longer : Prints (Operand.method begun (indent 3) call.name call.arguments).print
        (text ++ "\n            " ++ call.line) := by
      intro after
      refine (prints _).trans ?_
      show text.toList ++ (indent 3 ++ Source.charsOf (.mark '.' :: _)) = _
      rw [prints_call]
      simp [indent, List.replicate]
    rw [chain, List.foldl_cons, ← chain, ih longer]
    simp [chars_line, call.line_ne, List.replicate]

theorem chars_append (front rest : List Piece) :
    Source.charsOf (front ++ rest) = Source.charsOf front ++ Source.charsOf rest := by
  induction front with
  | nil => rfl
  | cons piece front ih => simp [ih]

/-- A function's lines: its header, those of its body, and the brace that ends it. -/
theorem lines_method (method : Method) (line : String) (body : List Line)
    (header : line.toList = "fn ".toList ++ Source.charsOf method.header ++ " \x7b".toList)
    (inner : Source.charsOf method.inner = '\n' :: (charsOf body ++ "    ".toList)) :
    charsOf ((1, line) :: (body ++ [(1, "\x7d")])) =
      "    ".toList ++ Source.charsOf (method.print []) ++ ['\n'] := by
  have some : line ≠ "" := by
    rintro rfl
    simp at header
  simp [chars_line, some, header, Method.print, chars_append, inner, List.replicate]

variable (code : Code)

theorem lines_typePath : charsOf code.typePathLines =
    "    ".toList ++ Source.charsOf ((typePathMethod code).print []) ++ ['\n'] := by
  have colons : (Text.quoted "::").toList = ['"', ':', ':', '"'] := rfl
  refine lines_method _ _ [(2, "concat!(module_path!(), \"::\", " ++ Text.quoted code.typeName ++
    ")")] (by simp [typePathMethod]) ?_
  simp [typePathMethod, chars_line, indent, List.replicate, colons]

theorem lines_identity : charsOf code.identityLines =
    "    ".toList ++ Source.charsOf ((identityMethod code).print []) ++ ['\n'] ++ '\n' ::
      ("    ".toList ++ Source.charsOf ((setIdentityMethod code).print []) ++ ['\n']) := by
  have first := lines_method (identityMethod code) "fn identity(&self) -> i64 \x7b"
    [(2, "self." ++ code.identity)]
    (by simp [identityMethod])
    (by simp [identityMethod, chars_line, Body.print, printStatements, indent, List.replicate])
  have second := lines_method (setIdentityMethod code)
    "fn set_identity(&mut self, identity: i64) \x7b" [(2, "self." ++ code.identity ++ " = identity;")]
    (by simp [setIdentityMethod])
    (by simp [setIdentityMethod, chars_line, Body.print, printStatements, Statement.print, indent,
      List.replicate])
  rw [← first, ← second]
  simp only [Code.identityLines, charsOf_line, charsOf_nil, List.append_nil,
    List.append_assoc, List.cons_append, List.nil_append]
  rfl

theorem schemaLines_eq {parent? : Option Names} (parent : code.parent? = parent?.map pathText) :
    code.schemaLines =
      (1, "fn schema_model() -> ::std::result::Result<::rowforge::compiler::SchemaModel, " ++
        "::rowforge::compiler::SchemaError> \x7b") ::
      (((2, "::rowforge::compiler::SchemaModel::builder(Self::type_path())") ::
        (schemaCalls code parent?).map fun call => (3, call.line)) ++ [(1, "\x7d")]) := by
  rw [Code.schemaLines, parent]
  cases parent? <;> simp [schemaCalls, SchemaCall.line]

theorem lines_schema {parent? : Option Names}
    (parent : code.parent? = parent?.map pathText) : charsOf code.schemaLines =
    "    ".toList ++ Source.charsOf ((schemaMethod code parent?).print []) ++ ['\n'] := by
  rw [schemaLines_eq code parent]
  refine lines_method (schemaMethod code parent?) _ _ (by simp [schemaMethod]) ?_
  have begun : Prints (Operand.call (libraryPath ["compiler", "SchemaModel", "builder"])
      [.operand (.call ⟨false, "Self", ["type_path"]⟩ [])]).print
      "::rowforge::compiler::SchemaModel::builder(Self::type_path())" := fun after => by simp
  have calls := prints_chain (schemaCalls code parent?) begun "    ".toList []
  simp at calls
  simp [schemaMethod, schemaBody, chars_line, Body.print, printStatements, indent, List.replicate,
    calls]

theorem lines_encode : charsOf code.encodeLines =
    "    ".toList ++ Source.charsOf ((encodeMethod code).print []) ++ ['\n'] := by
  refine lines_method (encodeMethod code) _ _ (by simp [encodeMethod]) ?_
  unfold encodeMethod encodeBody
  cases empty : code.writes.isEmpty with
  | true => simp [chars_line, Body.print, printStatements, indent, List.replicate]
  | false =>
    have writes := prints_statements prints_write (fun write => by simp [Write.source]) code.writes
      "        ".toList ((Operand.call ⟨false, "Ok", []⟩ [.operand (nameOf "values")]).print
        [.gap (indent 1)])
    simp [indent, List.replicate] at writes
    simp [chars_line, Body.print, printStatements, Statement.print, indent, List.replicate,
      writes]

theorem lines_decode : charsOf code.decodeLines =
    "    ".toList ++ Source.charsOf ((decodeMethod code).print []) ++ ['\n'] := by
  have reads := prints_statements prints_read (fun read => by simp [Read.source]) code.reads
    "        ".toList ((Operand.call ⟨false, "Ok", []⟩ [.operand .unit]).print [.gap (indent 1)])
  simp [indent, List.replicate] at reads
  have block := lines_method (decodeMethod code)
    "fn map_row(row: &::rowforge::Row, target: &mut Self) -> ::rowforge::Result<()> \x7b"
    ((2, "target." ++ code.identity ++ " = row.integer(" ++ Text.quoted code.identity ++ ")?;") ::
      (code.reads.map (fun read => (2, read.source)) ++ [(2, "Ok(())")]))
    (by simp [decodeMethod])
    (by simp [decodeMethod, decodeBody, chars_line, Body.print, printStatements, Statement.print,
      indent, List.replicate, reads])
  rw [← block, Code.decodeLines]
  simp

theorem charsOf_method (method : Method) (after : List Piece) :
    Source.charsOf (method.print after) =
      Source.charsOf (method.print []) ++ Source.charsOf after := by
  simp [Method.print, chars_append]

/-- The adapter's text is its comment and the pieces of an implementation. -/
theorem source_chars {parent? : Option Names} (parent : code.parent? = parent?.map pathText) :
    code.source.toList = "// Generated by rowforge. Do not modify!\n".toList ++
      Source.charsOf (printImplementation (libraryPath ["Entity"]) ⟨false, code.typeName, []⟩
        (methods code parent?)) := by
  have lines : code.source.toList = charsOf code.lines := by
    rw [Code.source, String.toList_join, List.flatMap_map]
    rfl
  have empty : (Line.text (0, "")).toList = ['\n'] := rfl
  rw [lines, Code.lines]
  simp only [charsOf_lines, charsOf_line, charsOf_nil, lines_typePath, lines_schema _ parent,
    lines_identity, lines_encode, lines_decode, empty]
  simp [chars_line, printImplementation, methods, printMethods, charsOf_method _ (_ :: _),
    indent, List.replicate]

end Texts

end EntityTables.Adapter
