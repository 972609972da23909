import CommitGate.Text.Blank
import CommitGate.Text.Bytes

/-!
# Pointers

A reference is stored as the hash it leads to, or as the name of another reference. It has a file of
its own, or a line in the list of packed references. In the same way, a file can stand for a
directory by saying where it is.
-/

namespace CommitGate.Storage

/-- What a reference leads to. -/
inductive Pointer where
  /-- Another reference. -/
  | symbolic (name : Text)
  /-- A record. -/
  | direct (hash : Text)
  deriving DecidableEq, Repr

/-- What stands after a word at the start of a text, without the blanks around it. -/
def after? (word t : Text) : Option Text :=
  if word.isPrefixOf t then some (Text.trim (t.drop word.length)) else none

namespace Pointer

/-- The pointer that a file holds. -/
def ofText (t : Text) : Pointer :=
  match after? "ref:".toList t with
  | some name => symbolic name
  | none => direct (Text.trim t)

/-- The pointer in a line of the list of packed references, with its name. A line that starts with
`#` or `^` says something else. -/
def ofPackedLine? (line : Text) : Option (Text × Pointer) :=
  match line with
  | [] | '#' :: _ | '^' :: _ => none
  | _ =>
    let hash := line.takeWhile (· ≠ ' ')
    some (Text.trim (line.drop (hash.length + 1)), direct hash)

/-- The list of packed references. -/
def packed (t : Text) : List (Text × Pointer) := (t.splitOn '\n').filterMap ofPackedLine?

end Pointer

/-- The directory that a file stands for. -/
def directoryIn? (t : Text) : Option Text := after? "gitdir:".toList t

end CommitGate.Storage
