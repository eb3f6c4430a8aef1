import ApiStore.Fault
/-
`Folder.lean` -- the files that a command works on.

A folder is known by its files, each under its place, which is the list of names that
leads to it. A path is followed name by name from the folder itself: every name but the
last has to be a directory, an empty name or `.` stays where it is, and `..` goes one
level up, past the folder too.
-/
set_option autoImplicit false

namespace ApiStore

/-- The names that lead from a folder to something in it. A place outside starts with `..` or
`/`. -/
abbrev Place := List String

/-- What stands at a path. -/
inductive Standing where
  | file (bytes : List UInt8)
  | directory
  | nothing
  deriving DecidableEq, Repr

/-- Files, and directories without files. -/
structure Folder where
  files : List (Place × List UInt8)
  directories : List Place
  deriving DecidableEq, Repr

namespace Folder

/-! ## 1. Places -/

/-- The place one level up. -/
def above (place : Place) : Place :=
  match place.getLast? with
  | none | some ".." => place ++ [".."]
  | some "/" => place
  | some _ => place.dropLast

/-- Whether a place is a directory. -/
def isDirectory (f : Folder) (place : Place) : Bool :=
  place.all (· == "..") || place == ["/"] || f.directories.contains place ||
    f.files.any fun (other, _) => decide (place.length < other.length) &&
      other.take place.length == place

/-- The place that a name leads to. -/
def step (place : Place) : String → Place
  | "" | "." => place
  | ".." => above place
  | name => place ++ [name]

/-- Follows names from a directory on. -/
def follow (f : Folder) (place : Place) : List String → Option Place
  | [] => some place
  | name :: rest => if f.isDirectory place then f.follow (step place name) rest else none

/-- The names in a path, and where they start. -/
def route (path : String) : Place × List String :=
  (if path.startsWith "/" then ["/"] else [], path.splitOn "/")

/-- What stands at a path. -/
def look (f : Folder) (path : String) : Standing :=
  let (start, names) := route path
  match if path.isEmpty then none else f.follow start names with
  | none => .nothing
  | some place =>
    match f.files.lookup place with
    | some bytes => .file bytes
    | none => if f.isDirectory place then .directory else .nothing

/-! ## 2. Paths in messages -/

/-- The names in a path that count. -/
def properNames (path : String) : List String :=
  (path.splitOn "/").filter fun name => name ≠ "" ∧ name ≠ "."

/-- Names as a path. -/
def pathOf (path : String) (names : List String) : String :=
  let joined := "/".intercalate names
  if path.startsWith "/" then "/" ++ joined else if names.isEmpty then "." else joined

/-- A path without names that do not count. -/
def tidy (path : String) : String := pathOf path (properNames path)

/-- The bytes of a file. -/
def read (f : Folder) (path : String) : Except Fault (List UInt8) :=
  match f.look path with
  | .file bytes => .ok bytes
  | .directory => .error (.directory (tidy path))
  | .nothing => .error (.missingFile (tidy path))

/-! ## 3. Writing -/

/-- The place that directories lead to which are made where they are missing; `parent` is the whole
path of them. A file in the way ends this. -/
def makeDirectories (f : Folder) (parent : String) (place : Place) : List String →
    Except Fault (Folder × Place)
  | [] => .ok (f, place)
  | name :: rest =>
    let next := step place name
    if f.isDirectory next then f.makeDirectories parent next rest
    else if (f.files.lookup next).isSome then
      .error (if rest.isEmpty then .fileInPlace parent else .throughFile parent)
    else { f with directories := f.directories ++ [next] }.makeDirectories parent next rest

/-- A folder with a file in a place. -/
def put (f : Folder) (place : Place) (bytes : List UInt8) : Folder :=
  { f with files := f.files.filter (fun (other, _) => other != place) ++ [(place, bytes)] }

/-- Writes a file, and the directories that lead to it. -/
def write (f : Folder) (path : String) (bytes : List UInt8) : Except Fault Folder := do
  let names := properNames path
  let (made, place) ← f.makeDirectories (pathOf path names.dropLast) (route path).1 names.dropLast
  let target := names.getLast?.elim place (step place)
  if made.isDirectory target then throw (.directory (tidy path)) else return made.put target bytes

end Folder

end ApiStore
