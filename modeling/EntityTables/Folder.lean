/-
# EntityTables.Folder — the files that a run can see

Files with their texts, and folders, by their places: the steps that lead to them from the folder in
which the program runs. A path is walked step by step, and every step starts in a folder that is
there; so a path that ends in a slash leads to a folder or nowhere, and a step upwards does not take
back a step that cannot be made.

* `Folder.ofFiles` — files and the folders that lead to them.
* `Folder.place?` — where a path leads; `Folder.text?` — the text of the file there.
-/

namespace EntityTables

set_option autoImplicit false

/-- The step that begins a path from the top. -/
def topStep : String := "/"

/-- The step to the folder above. -/
def upStep : String := ".."

/-- The parts of a path from one slash to the next. -/
def pathParts (path : String) : List String := path.splitOn "/"

/-- Whether a part of a path stays where it is. -/
def isIdle (part : String) : Bool := part == "" || part == "."

/-- Where a part of a path leads from a place, whose latest step comes first. -/
def walk (place : List String) (part : String) : List String :=
  if isIdle part then place
  else if part = upStep then
    match place with
    | [] => [upStep]
    | before :: rest =>
      if before = upStep then upStep :: place else if before = topStep then place else rest
  else part :: place

/-- The place at which a path begins. -/
def startPlace (path : String) : List String :=
  if path.toList.head? = some '/' then [topStep] else []

/-- The longest name that a file can have, in bytes. -/
def longestName : Nat := 255

/-- Whether a path can be asked for: it is not empty, no name in it is too long, and it has no
character that ends a path. -/
def isAskable (path : String) : Bool :=
  path != "" && !path.contains '\x00' && (pathParts path).all (·.utf8ByteSize ≤ longestName)

/-- What a run can see: texts by the places of files, and the places of folders. The latest step of
a place comes first. -/
structure Folder where
  files : List (List String × String)
  folders : List (List String)
  deriving DecidableEq, Inhabited

namespace Folder

/-- Folders that are always there. -/
def always : List (List String) := [[topStep], ["tmp", topStep]]

/-- The place that a path names if all its steps can be made. -/
def namedPlace (path : String) : List String := (pathParts path).foldl walk (startPlace path)

/-- The places from which the steps to a place start. -/
def above : List String → List (List String)
  | [] => []
  | _ :: place => place :: above place

/-- Adds a folder by its path. -/
def withFolder (folder : Folder) (path : String) : Folder :=
  { folder with folders := namedPlace path :: folder.folders }

/-- Files by their paths, and the folders that lead to them. -/
def ofFiles (files : List (String × String)) : Folder :=
  let files := files.map fun (path, text) => (namedPlace path, text)
  ⟨files, always ++ files.flatMap fun file => above file.1⟩

/-- Whether there is a folder at a place; there is one at every place above the first. -/
def hasFolder (folder : Folder) (place : List String) : Bool :=
  place.all (· == upStep) || folder.folders.contains place

/-- The text of the file at a place. -/
def textAt? (folder : Folder) (place : List String) : Option String :=
  (folder.files.find? fun file => file.1 == place).map Prod.snd

/-- Where a path leads, if each of its steps starts in a folder. -/
def place? (folder : Folder) (path : String) : Option (List String) :=
  if isAskable path then
    (pathParts path).foldlM
      (fun place part => if folder.hasFolder place then some (walk place part) else none)
      (startPlace path)
  else none

/-- The text of the file to which a path leads. -/
def text? (folder : Folder) (path : String) : Option String :=
  (folder.place? path).bind folder.textAt?

/-- A path with more behind its last name, if it ends in a name; what comes behind that is
dropped. -/
def withEnding? (path ending : String) : Option String :=
  let parts := ((pathParts path).reverse.dropWhile isIdle).reverse
  match parts.getLast? with
  | none => none
  | some name => if name = upStep then none else some ("/".intercalate parts ++ ending)

/-- The last part of a path. -/
def lastPart (path : String) : String := (pathParts path).getLastD ""

/-- The beginnings of a path that end in front of a slash. -/
def beginnings (path : String) : List String :=
  let parts := pathParts path
  (List.range parts.length).map fun n => "/".intercalate (parts.take n) ++ "/"

end Folder

end EntityTables
