/-
# EntityTables.Source.ItemReader — the declaration of a type read from its text

* `readItem?` — the declaration that is the whole of a text.
-/
import EntityTables.Source.Nesting

namespace EntityTables.Source

set_option autoImplicit false

open Reading

/-- The declaration of a type. -/
def readItem : Reading Item := do
  let g := grammarFor (← upcoming)
  let found ← attributes g
  let _ ← readVisibility
  let keyword ← anyWord
  let namePosition ← here
  let name ← identifier
  let parameters? ← readParameters g
  let shape ← match keyword with
    | "struct" => readStructBody g
    | "enum" => readEnumBody g
    | "union" => readUnionBody g
    | _ => failure
  return ⟨found, name, namePosition, parameters?, shape⟩

/-- The declaration that is the whole of a text. -/
def readItem? (text : String) : Option Item := do whole readItem (← readTrees? text)

end EntityTables.Source
