import CommitGate.Text.Bytes

/-!
# Files

What the program can learn from the file system: the bytes of a file or why they cannot be had, and
the directory it works in.
-/

namespace CommitGate

/-- Why a file cannot be read. -/
inductive ReadFailure where
  /-- Nothing has this path. -/
  | missing
  /-- The path goes through something that is not a directory. -/
  | notDirectory
  /-- A name on the path is longer than names can be. -/
  | nameTooLong
  /-- The path leads to a directory. -/
  | isDirectory
  /-- The file is not text. -/
  | notText
  /-- The system refuses, in words of its own. -/
  | refused (words : Text)
  deriving DecidableEq, Repr

namespace ReadFailure

/-- What is said about a failure. -/
def message : ReadFailure → Text
  | missing => "No such file or directory (os error 2)".toList
  | notDirectory => "Not a directory (os error 20)".toList
  | nameTooLong => "File name too long (os error 36)".toList
  | isDirectory => "Is a directory (os error 21)".toList
  | notText => "stream did not contain valid UTF-8".toList
  | refused words => words

/-- Whether the failure means that nothing is there. -/
def isAbsence : ReadFailure → Bool
  | missing | notDirectory | nameTooLong => true
  | isDirectory | notText | refused _ => false

end ReadFailure

/-- A view of the file system. -/
structure Files where
  /-- The directory the program works in, if it can be told. -/
  directory : Option Text
  /-- The bytes that a path leads to. -/
  bytes : Text → Except ReadFailure (List UInt8)

namespace Files

/-- A view that knows just the given paths. -/
def ofList (directory : Option Text) (found : List (Text × Except ReadFailure (List UInt8))) :
    Files where
  directory := directory
  bytes := fun path => (found.lookup path).getD (.error .missing)

/-- The text that a path leads to. -/
def text (files : Files) (path : Text) : Except ReadFailure Text := do
  match Utf8.decode? (← files.bytes path) with
  | some t => .ok t
  | none => .error .notText

/-- Whether a path leads to anything, readable or not. -/
def has (files : Files) (path : Text) : Bool :=
  match files.bytes path with
  | .ok _ => true
  | .error e => !e.isAbsence

/-- The path of a name in a directory. -/
def join (directory name : Text) : Text :=
  if directory = [] ∨ directory.getLast? = some '/' then directory ++ name
  else directory ++ '/' :: name

/-- A path as it is seen from a directory; a path from the top is seen alike from everywhere. -/
def resolve (directory path : Text) : Text :=
  if path.head? = some '/' then path else join directory path

end Files

end CommitGate
