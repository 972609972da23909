import CommitGate.Files

/-!
# File trees

A file system as a value: files with their bytes, and directories. A path is followed name by name
from the directory it starts in; it may go through directories only, and a slash at its end asks for
one.
-/

namespace CommitGate

/-- Files and directories, by the names that lead to them from the top. A directory exists if it is
listed, or if something is below it. -/
structure FileTree where
  /-- The files with their bytes. -/
  files : List (List Text × List UInt8)
  /-- Directories that exist even if nothing is below them. -/
  directories : List (List Text)

namespace FileTree

/-- The greatest number of bytes in a name. -/
def longestName : Nat := 255

/-- The bytes of a file. -/
def file? (t : FileTree) (place : List Text) : Option (List UInt8) :=
  (t.files.find? (·.1 = place)).map (·.2)

/-- Whether there is a directory at a place. -/
def isDirectory (t : FileTree) (place : List Text) : Bool :=
  place = [] ||
    (t.file? place).isNone &&
      (t.directories.any (place.isPrefixOf ·) || t.files.any (place.isPrefixOf ·.1))

/-- The names of a path. A name is empty where the path starts or ends with a slash. -/
def names (path : Text) : List Text := path.splitOn '/'

/-- Follows names from a place. -/
def follow (t : FileTree) : (place : List Text) → List Text → Except ReadFailure (List Text)
  | place, [] => .ok place
  | place, name :: rest =>
    if !t.isDirectory place then .error .notDirectory
    else if name = [] ∨ name = ['.'] then t.follow place rest
    else if name = ['.', '.'] then t.follow place.dropLast rest
    else if longestName < name.bytes.length then .error .nameTooLong
    else
      let next := place ++ [name]
      if (t.file? next).isSome || t.isDirectory next then t.follow next rest else .error .missing

/-- The place that a path leads to, seen from a directory. A path that starts with a slash is seen
from the top, and an empty one leads nowhere. -/
def locate (t : FileTree) (directory : List Text) (path : Text) : Except ReadFailure (List Text) :=
  if path = [] then .error .missing
  else t.follow (if path.head? = some '/' then [] else directory) (names path)

/-- The bytes at the end of a path. -/
def read (t : FileTree) (directory : List Text) (path : Text) :
    Except ReadFailure (List UInt8) := do
  match t.file? (← t.locate directory path) with
  | some bytes => .ok bytes
  | none => .error .isDirectory

/-- The path of a place. -/
def pathOf (place : List Text) : Text := '/' :: ['/'].intercalate place

/-- The view of the tree from a directory. -/
def view (t : FileTree) (directory : List Text) : Files where
  directory := some (pathOf directory)
  bytes := t.read directory

end FileTree

end CommitGate
