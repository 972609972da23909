import CommitGate.Text.Basic

/-!
# Revisions

A revision names an object of a repository: it starts with a name and goes on from there by steps to
ancestors and parents, and by looking behind tags.
-/

namespace CommitGate

/-- What is wanted behind an object. -/
inductive Peel where
  /-- Whatever a tag stands for. -/
  | untagged
  /-- A commit. -/
  | commit
  /-- A tree. -/
  | tree
  /-- A blob. -/
  | blob
  /-- A tag. -/
  | tag
  /-- Anything. -/
  | object
  deriving DecidableEq, Repr

/-- What is written for the wanted kind, between brackets. -/
def Peel.name : Peel → Text
  | untagged => []
  | commit => "commit".toList
  | tree => "tree".toList
  | blob => "blob".toList
  | tag => "tag".toList
  | object => "object".toList

/-- The wanted kind that is written so. -/
def Peel.ofName? (t : Text) : Option Peel :=
  [untagged, commit, tree, blob, tag, object].find? (·.name = t)

/-- A step of a revision. -/
inductive Move where
  /-- To the commit so many first parents back. -/
  | ancestor (n : Nat)
  /-- To one of the parents; the zeroth is the commit itself. -/
  | parent (n : Nat)
  /-- To what is behind an object. -/
  | peel (p : Peel)
  deriving DecidableEq, Repr

/-- A name with the steps that follow it. -/
structure Revision where
  /-- The name it starts with. -/
  name : Text
  /-- The steps, in order. -/
  moves : List Move
  deriving DecidableEq, Repr

namespace Revision

/-- The number that digits write, and one if there are none. -/
def countOf (digits : Text) : Nat :=
  if digits = [] then 1 else digits.foldl (fun n c => 10 * n + (c.toNat - '0'.toNat)) 0

/-- The step that a text starts with, and how many of its characters after the first belong to
it. -/
def move? : Char → Text → Option (Move × Nat)
  | '~', rest =>
    let digits := rest.takeWhile Char.isDigit
    some (.ancestor (countOf digits), digits.length)
  | '^', '\x7b' :: rest => do
    let kind := rest.takeWhile (· ≠ '\x7d')
    if kind.length = rest.length then none
    else some (.peel (← Peel.ofName? kind), kind.length + 2)
  | '^', rest =>
    let digits := rest.takeWhile Char.isDigit
    some (.parent (countOf digits), digits.length)
  | _, _ => none

/-- The steps that a text writes. A colon at the end asks for the tree, and `^!` takes no step: it
leaves out the parents of a commit where several commits are meant. -/
def moves? : Text → Option (List Move)
  | [] | ['^', '!'] => some []
  | [':'] => some [.peel .tree]
  | c :: rest => do
    let (move, more) ← move? c rest
    let moves ← moves? (rest.drop more)
    some (move :: moves)
termination_by t => t.length
decreasing_by simp only [List.length_drop, List.length_cons]; omega

/-- Whether a name can be taken as it is. What follows an `@` must not make it something else. -/
def isPlainName : Text → Bool
  | [] => true
  | ['@'] => true
  | '@' :: c :: rest => c ≠ '.' && c ≠ '\x7b' && isPlainName (c :: rest)
  | _ :: rest => isPlainName rest

/-- Reads a revision. A lone `@` stands for the head; a longer name does not end with an `@` if steps
follow it. -/
def parse? (t : Text) : Option Revision := do
  let name := t.takeWhile fun c => c ≠ '~' && c ≠ '^' && c ≠ ':'
  let written := t.drop name.length
  let moves ← moves? written
  if name = ['@'] then some ⟨"HEAD".toList, moves⟩
  else if isPlainName name && (written.isEmpty || name.getLast? ≠ some '@') then some ⟨name, moves⟩
  else none

end Revision

end CommitGate
