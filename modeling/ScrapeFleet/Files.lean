/-
# ScrapeFleet.Files — files and folders by path

A tree of files and folders, listed by where each of them is. A path is walked name by name from the
folder that one works in; it ends wherever a name is missing or stands for a file.
-/

namespace ScrapeFleet

/-- What is at a place. -/
inductive Files.Entry where
  | file (text : String)
  | folder
deriving DecidableEq, Repr, Inhabited

/-- A place: the names on the way from the root. -/
abbrev Files.Place := List String

/-- Files and folders, without the root. -/
structure Files where
  entries : List (Files.Place × Files.Entry) := []
deriving Repr, Inhabited

namespace Files

/-- What is at a place. The root is a folder. -/
def at? (fs : Files) (p : Place) : Option Entry :=
  if p.isEmpty then some .folder else fs.entries.lookup p

/-- Puts something at a place. -/
def put (fs : Files) (p : Place) (e : Entry) : Files :=
  ⟨(p, e) :: fs.entries.filter (·.1 != p)⟩

/-- How many files and folders a folder holds. -/
def count (fs : Files) (p : Place) : Nat :=
  (fs.entries.filter fun e => !e.1.isEmpty && e.1.dropLast == p).length

/-- A name that a file can have. -/
def isName (s : String) : Bool := s.utf8ByteSize ≤ 255 && !s.toList.contains '\x00'

/-- Walks a path from a folder, name by name. -/
def walk (fs : Files) (start : Place) : List String → Option Place
  | [] => some start
  | name :: rest =>
    if fs.at? start == some .folder then
      if name.isEmpty || name == "." then fs.walk start rest
      else if name == ".." then fs.walk start.dropLast rest
      else if isName name && (fs.at? (start ++ [name])).isSome then fs.walk (start ++ [name]) rest
      else none
    else none

/-- The names of a path. -/
def names (path : String) : List String := path.splitOn "/"

/-- The folder that a path starts from. -/
def origin (cwd : Place) (path : String) : Place := if path.startsWith "/" then [] else cwd

/-- Where a path leads. -/
def place? (fs : Files) (cwd : Place) (path : String) : Option Place :=
  if path.isEmpty then none else fs.walk (origin cwd path) (names path)

/-- The text of the file at a path. -/
def text? (fs : Files) (cwd : Place) (path : String) : Option String := do
  match ← fs.at? (← fs.place? cwd path) with
  | .file text => some text
  | .folder => none

/-- Writes a file in place of whatever file is at the path. The folder must be there, and the path must
end in a name that is not that of a folder. -/
def replace (fs : Files) (cwd : Place) (path text : String) : Option Files := do
  let name ← (names path).getLast?
  if name.isEmpty || name == "." || name == ".." || !isName name then none
  let folder ← fs.walk (origin cwd path) (names path).dropLast
  if fs.at? folder != some .folder then none
  let p := folder ++ [name]
  if fs.at? p == some .folder then none
  return fs.put p (.file text)

/-- Makes the folders along a path that are missing. -/
def makeFoldersFrom (fs : Files) (start : Place) : List String → Option Files
  | [] => some fs
  | name :: rest =>
    if name.isEmpty || name == "." then fs.makeFoldersFrom start rest
    else if name == ".." then fs.makeFoldersFrom start.dropLast rest
    else
      let p := start ++ [name]
      match fs.at? p with
      | some .folder => fs.makeFoldersFrom p rest
      | some (.file _) => none
      | none => if isName name then (fs.put p .folder).makeFoldersFrom p rest else none

/-- Makes the folder at a path, and all that lead to it. -/
def makeFolders (fs : Files) (cwd : Place) (path : String) : Option Files :=
  fs.makeFoldersFrom (origin cwd path) (names path)

/-- The names at the front of a path that lead up to its last one, the last first. A blank name or a point
leads nowhere, but a point at the very front is a name; `names` are given the last first. -/
def dropLastName : List String → Option (List String)
  | [] => none
  | [name] => if name.isEmpty then none else some []
  | name :: front =>
    if name.isEmpty || name == "." then dropLastName front else some (dropBlanks front)
where
  /-- Drops names that lead nowhere. -/
  dropBlanks : List String → List String
    | name :: next :: front =>
      if name.isEmpty || name == "." then dropBlanks (next :: front) else name :: next :: front
    | front => front

/-- The path of the folder that a path is in, as far as it was written. -/
def parent? (path : String) : Option String :=
  (dropLastName (names path).reverse).map fun front =>
    if front == [""] then "/" else "/".intercalate front.reverse

end Files

end ScrapeFleet
