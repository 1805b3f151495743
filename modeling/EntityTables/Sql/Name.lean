/-
# EntityTables.Sql.Name — names as SQL text writes them

A name of ASCII letters, digits and underscores that begins with no digit and is not reserved
stands as it is; any other is put between double quotes, with each quote inside it written twice.

* `isBare` — a name that needs no quotes; `quoteName` — a name as written.
-/
import EntityTables.Sql.Keyword

namespace EntityTables.Sql

set_option autoImplicit false

/-- ASCII letters and the underscore begin a bare name. -/
def isNameStart (c : Char) : Bool := c.isAlpha || c == '_'

/-- A bare name goes on with these and ASCII digits. -/
def isNamePart (c : Char) : Bool := c.isAlphanum || c == '_'

/-- A name that SQL text can hold without quotes. -/
def isBare (name : String) : Bool :=
  match name.toList with
  | [] => false
  | c :: rest => isNameStart c && rest.all isNamePart && !isKeyword name

/-- Each double quote written twice. -/
def doubleQuotes (cs : List Char) : List Char :=
  cs.flatMap fun c => if c = '"' then ['"', '"'] else [c]

/-- A name between double quotes. -/
def quotedName (name : String) : String :=
  String.ofList ('"' :: doubleQuotes name.toList ++ ['"'])

/-- A name as SQL text writes it. -/
def quoteName (name : String) : String := if isBare name then name else quotedName name

theorem toList_quoteName_of_bare {name : String} (h : isBare name = true) :
    (quoteName name).toList = name.toList := by
  simp [quoteName, h]

theorem toList_quoteName_of_not_bare {name : String} (h : isBare name = false) :
    (quoteName name).toList = '"' :: doubleQuotes name.toList ++ ['"'] := by
  simp [quoteName, quotedName, h]

end EntityTables.Sql
