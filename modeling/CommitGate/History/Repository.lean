import CommitGate.Fault
import CommitGate.History.Graph
import CommitGate.History.Revision
import CommitGate.Walk

/-!
# Repositories

A repository holds a commit graph, references to objects, and a head. Revisions are looked up in it;
looking one up fails if the name is unknown or a step leads nowhere, and a revision that leads to
something other than a commit cannot be walked from.
-/

namespace CommitGate

/-- An object that a reference leads to. -/
inductive Object where
  /-- A commit of the graph. -/
  | commit (number : Nat)
  /-- A tag for another object. -/
  | tag (target : Object)
  /-- A directory tree. -/
  | tree
  /-- The content of a file. -/
  | blob
  deriving DecidableEq, Repr

/-- What is behind all tags. -/
def Object.untagged : Object → Object
  | .tag target => target.untagged
  | o => o

/-- What the head is. -/
inductive Head where
  /-- Whatever the reference with this name leads to, which need not exist. -/
  | symbolic (name : Text)
  /-- An object. -/
  | detached (target : Object)

/-- A repository. -/
structure Repository where
  /-- The commits. -/
  graph : Graph
  /-- The references, by their full names. -/
  refs : List (Text × Object)
  /-- The head. -/
  head : Head

/-- Why a question to a repository has no answer. -/
inductive LookupFailure where
  /-- There is no repository. -/
  | noRepository
  /-- A revision leads nowhere. -/
  | unknownRevision (revision : Text)
  /-- A revision leads to something else than a commit. -/
  | notCommit (revision : Text)
  /-- The histories of the head and the base have nothing in common. -/
  | unrelated (base : Text)
  deriving DecidableEq, Repr

/-- A text in single quotes. -/
def singleQuoted (t : Text) : Text := '\'' :: t ++ ['\'']

namespace LookupFailure

/-- What is said about a failure. -/
def message : LookupFailure → Text
  | noRepository => "Failed to discover git repository".toList
  | unknownRevision revision => "Failed to parse reference ".toList ++ singleQuoted revision
  | notCommit revision => "Failed to peel to commit ".toList ++ singleQuoted revision
  | unrelated base => "Failed to find merge-base of HEAD and ".toList ++ singleQuoted base

/-- The fault that a failure is. -/
def fault (f : LookupFailure) : Fault := .repository f.message

end LookupFailure

namespace Repository

/-- The object of a reference with a full name. -/
def ref? (r : Repository) (name : Text) : Option Object := (r.refs.find? (·.1 = name)).map (·.2)

/-- The object of the head. A symbolic head is never a tag. -/
def head? (r : Repository) : Option Object :=
  match r.head with
  | .symbolic name => (r.ref? name).map Object.untagged
  | .detached target => some target

/-- A name that is full as it is. -/
def isFull (name : Text) : Bool :=
  ["refs/".toList, "main-worktree/".toList, "worktrees/".toList].any (·.isPrefixOf name)

/-- A name in capitals, which can stand for a reference of the repository itself. -/
def isCapital (name : Text) : Bool := name.all fun c => c.isUpper || c = '_'

/-- The full names that a name can stand for, the preferred ones first. -/
def fullNames (name : Text) : List Text :=
  if isFull name then [name]
  else
    (if isCapital name then [name] else []) ++
      [ "refs/".toList ++ name, "refs/tags/".toList ++ name, "refs/heads/".toList ++ name,
        "refs/remotes/".toList ++ name, "refs/remotes/".toList ++ name ++ "/HEAD".toList ]

/-- Whether a name is in a directory, or further below it. -/
def isBelow (directory name : Text) : Bool := (directory ++ ['/']).isPrefixOf name

/-- A name cannot be looked up where a reference takes the place of one of its directories. -/
def isBlocked (r : Repository) (name : Text) : Bool := r.refs.any fun ref => isBelow ref.1 name

/-- The object of the first name that has one. A name that cannot be looked up ends the search. -/
def firstRef? (r : Repository) : List Text → Option Object
  | [] => none
  | name :: others =>
    if r.isBlocked name then none else (r.ref? name).or (r.firstRef? others)

/-- The least length of an abbreviated hash. -/
def leastAbbreviation : Nat := 4

/-- The commit whose hash starts with the given text, if there is just one. -/
def abbreviated? (r : Repository) (start : Text) : Option Object :=
  let numbers := (List.range r.graph.size).filter fun i =>
    r.graph.nodes[i]?.any fun node => start.isPrefixOf node.hash
  match numbers with
  | [i] => if leastAbbreviation ≤ start.length then some (.commit i) else none
  | _ => none

/-- The object that a name stands for: the head, a reference, or a commit by its hash. -/
def named? (r : Repository) (name : Text) : Option Object :=
  if name = "HEAD".toList then r.head?
  else (r.firstRef? (fullNames name)).or (r.abbreviated? name)

/-- What is behind an object, if it is of the wanted kind. -/
def peel? (o : Object) : Peel → Option Object
  | .untagged => some o.untagged
  | .object => some o
  | .tag =>
    match o with
    | .tag _ => some o
    | _ => none
  | .commit =>
    match o.untagged with
    | .commit i => some (.commit i)
    | _ => none
  | .tree =>
    match o.untagged with
    | .commit _ | .tree => some .tree
    | _ => none
  | .blob =>
    match o.untagged with
    | .blob => some .blob
    | _ => none

/-- Takes a step from an object. Ancestors and parents are those of commits; a tag has none. -/
def move? (r : Repository) (o : Object) : Move → Option Object
  | .ancestor n =>
    match o with
    | .commit i => (r.graph.back? n i).map .commit
    | _ => none
  | .parent 0 => peel? o .commit
  | .parent (n + 1) =>
    match o with
    | .commit i => (r.graph.parents i)[n]?.map .commit
    | _ => none
  | .peel p => peel? o p

/-- The object that a revision leads to. -/
def object? (r : Repository) (revision : Revision) : Option Object := do
  revision.moves.foldlM r.move? (← r.named? revision.name)

/-- The commit that a written revision leads to. -/
def commitOf (r : Repository) (written : Text) : Except LookupFailure Nat :=
  match (Revision.parse? written).bind r.object? with
  | none => .error (.unknownRevision written)
  | some o =>
    match o.untagged with
    | .commit i => .ok i
    | _ => .error (.notCommit written)

/-- A commit of the graph, with its message read leniently. -/
def commitAt (r : Repository) (i : Nat) : Commit :=
  match r.graph.nodes[i]? with
  | some node => ⟨node.hash, Utf8.decodeLossy node.message⟩
  | none => ⟨[], []⟩

/-- The commit so many first parents behind the head. -/
def commitBehindHead (r : Repository) (steps : Nat) : Except LookupFailure Commit :=
  (r.commitOf ("HEAD~".toList ++ Text.ofNat steps)).map r.commitAt

/-- The hash of the best common ancestor of the head and a base. -/
def mergeBaseWith (r : Repository) (base : Text) : Except LookupFailure Text := do
  let head ← r.commitOf "HEAD".toList
  let other ← r.commitOf base
  match r.graph.mergeBase? head other with
  | some i => .ok (r.commitAt i).hash
  | none => .error (.unrelated base)

/-- The history of the head as a walk sees it. A failure counts as the end of the history, or as the
lack of a merge base. -/
def source (r : Repository) (base : Text) : Source where
  commit := fun steps => (r.commitBehindHead steps).toOption
  mergeBase := (r.mergeBaseWith base).toOption

end Repository

end CommitGate
