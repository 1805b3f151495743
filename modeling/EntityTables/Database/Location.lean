/-
# EntityTables.Database.Location — where a database is

A database has a name: the path of its file, or nothing or a word of its own for one that ends with
the run. A name that begins with `file:` is an identifier with a path, behind a question mark
options, and `%` for characters that would end them; the options can forbid to write or to create
the file.

* `Location.ofName?` — where a name leads, if it is a name.
* `Location.opens` — whether the database there can be opened; `Location.refuses` — whether it
  then takes no tables.
-/
import EntityTables.Folder
import EntityTables.Json.Reader
import EntityTables.Text.Utf8

namespace EntityTables

set_option autoImplicit false

/-- What may be done to the file of a database. -/
inductive Access where
  | read
  | write
  /-- To write it, or to make it if there is none. -/
  | create
  deriving DecidableEq, Inhabited

/-- The file of a database, or none for one that ends with the run. -/
structure Location where
  path? : Option String
  access : Access
  /-- Whether it is taken that nothing changes the database. -/
  isFixed : Bool
  deriving DecidableEq, Inhabited

namespace Location

/-- A database that ends with the run. -/
def inMemory : String := ":memory:"

/-- The file of a path, where no path and the word for memory stand for none. -/
def fileOf (path : String) : Option String :=
  if path = "" ∨ path = inMemory then none else some path

/-! ## Identifiers -/

/-- What an identifier begins with. -/
def scheme : List Char := ['f', 'i', 'l', 'e', ':']

/-- The bytes of a part of an identifier: `%` and two digits stand for a byte, and the part ends at
the byte zero. -/
def decoded : Nat → List Char → List UInt8
  | _, [] => []
  | inside + 1, _ :: rest => decoded inside rest
  | 0, c :: rest =>
    match c, (rest.take 2).mapM Json.hexValue? with
    | '%', some [high, low] =>
      if high = 0 ∧ low = 0 then [] else (high * 16 + low).toUInt8 :: decoded 2 rest
    | _, _ => Utf8.encodeChar c ++ decoded 0 rest

/-- A part of an identifier as text; bytes that are none are left out. -/
def partText (cs : List Char) : String :=
  String.ofList ((Utf8.scan (decoded 0 cs)).filterMap id)

/-- What stands before the first of a character, and what stands behind it. -/
def cutAt (mark : Char) (cs : List Char) : List Char × List Char :=
  (cs.takeWhile (· != mark), (cs.dropWhile (· != mark)).drop 1)

/-- The parts between the separators of options. -/
def separated : List Char → List (List Char)
  | [] => [[]]
  | c :: rest =>
    if c = '&' then [] :: separated rest
    else
      match separated rest with
      | [] => [[c]]
      | part :: parts => (c :: part) :: parts

/-- Names and values of options; those without a name do not count. -/
def optionsOf (cs : List Char) : List (String × String) :=
  ((separated cs).map fun part =>
    let (name, value) := cutAt '=' part
    (partText name, partText value)).filter fun option => option.1 != ""

/-- The path of an identifier without the name of a host, which can only be this one. -/
def withoutHost? : List Char → Option (List Char)
  | '/' :: '/' :: rest =>
    let host := String.ofList (rest.takeWhile (· != '/'))
    if host = "" ∨ host = "localhost" then some (rest.dropWhile (· != '/')) else none
  | cs => some cs

/-- What options ask for, so far. -/
structure Asked where
  access : Access
  memory : Bool
  /-- The system that keeps the file. -/
  system : String
  deriving DecidableEq, Inhabited

/-- Whether one access allows what another does. -/
def Access.allows : Access → Access → Bool
  | .create, _ | .write, .write | .write, .read | .read, .read => true
  | _, _ => false

/-- Takes an option in. An access must be known and not wider than the one before, and a cache must
be known. -/
def Asked.take? (asked : Asked) : String × String → Option Asked
  | ("vfs", name) => some { asked with system := name }
  | ("cache", name) => if name ∈ ["shared", "private"] then some asked else none
  | ("mode", "memory") => some { asked with memory := true }
  | ("mode", name) => do
    let access ← [("ro", Access.read), ("rw", .write), ("rwc", .create)].lookup name
    if asked.memory ∨ Access.allows asked.access access then
      some { asked with access := access, memory := false }
    else none
  | _ => some asked

/-- The system that keeps files in memory. -/
def memorySystem : String := "memdb"

/-- The systems that keep files. -/
def systems : List String := ["unix", "unix-none", "unix-dotfile", "unix-excl", memorySystem]

/-- Whether the value of an option says yes: a number that is none of 256's multiples, or a word. -/
def isYes (value : String) : Bool :=
  let digits := value.toList.takeWhile Char.isDigit
  if digits.isEmpty then String.ofList (value.toList.map Char.toLower) ∈ ["on", "yes", "true"]
  else
    let n := digits.foldl (fun n d => n * 10 + (d.toNat - '0'.toNat)) 0
    n < 0x80000000 && n % 256 != 0

/-- The location of an identifier behind its scheme. -/
def ofIdentifier? (cs : List Char) : Option Location := do
  let (path, rest) := cutAt '?' ((← withoutHost? cs).takeWhile (· != '#'))
  let options := optionsOf rest
  let asked ← options.foldlM Asked.take? ⟨.create, false, "unix"⟩
  let path? := if asked.memory then none else fileOf (partText path)
  if asked.system ∈ systems then
    some
      { path? := if asked.system = memorySystem then none else path?
        access := if asked.memory then .create else asked.access
        isFixed := path?.isSome && (options.lookup "immutable").any isYes }
  else none

/-- The location of a database's name. -/
def ofName? (name : String) : Option Location :=
  if name.contains '\x00' then none
  else if scheme.isPrefixOf name.toList then ofIdentifier? (name.toList.drop scheme.length)
  else some ⟨fileOf name, .create, false⟩

/-! ## Opening -/

/-- The place of a database's file. Its path is shortened before it is walked, so that a step
upwards takes back any step; but a step must not start in a file. -/
def placeOf? (folder : Folder) (path : String) : Option (List String) :=
  (pathParts path).foldlM
    (fun place part =>
      if isIdle part ∨ part = upStep then some (walk place part)
      else if (folder.textAt? place).isSome ∨ longestName < part.utf8ByteSize then none
      else some (part :: place))
    (startPlace path)

/-- Whether a file can be at a place: it has a name, in a folder, that no folder has. -/
def canHold (folder : Folder) (place : List String) : Bool :=
  folder.hasFolder place.tail && !folder.hasFolder place

/-- Whether the database can be opened. -/
def opens (folder : Folder) (location : Location) : Bool :=
  match location.path? with
  | none => true
  | some path =>
    match placeOf? folder path with
    | none => false
    | some place =>
      match location.access with
      | .read | .write => (folder.textAt? place).isSome
      | .create => canHold folder place

/-- Whether the database takes no tables: it may not be written, nothing is taken to change it, or
its file, which may have one byte and no more, turns out to be none. -/
def refuses (folder : Folder) (location : Location) : Bool :=
  location.access == .read || location.isFixed ||
    match (location.path?.bind (placeOf? folder)).bind folder.textAt? with
    | some text => 1 < text.utf8ByteSize
    | none => false

end Location

end EntityTables
