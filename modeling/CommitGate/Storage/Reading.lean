import CommitGate.History.Repository
import CommitGate.Storage.Store

/-!
# Reading a repository

A repository is read from its store as far as a walk needs it: the head, whatever the name of the
base can stand for, and the commits that can be reached from them. The commits are arranged so that
parents come first. A parent that is not stored is left out.
-/

namespace CommitGate.Storage

/-- A commit as it is stored. -/
structure StoredCommit where
  /-- The message. -/
  message : List UInt8
  /-- The hashes of the parents. -/
  parents : List Text

/-- Stored commits by their hashes. -/
abbrev Commits := Std.HashMap Text StoredCommit

namespace Store

/-- The commit with the given hash. -/
def commit? (s : Store) (hash : Text) : Option StoredCommit :=
  match s.record? hash with
  | some r => if r.kind = .commit then some ⟨r.message, r.parents⟩ else none
  | none => none

/-- The greatest number of tags, one behind the other, that are looked behind. -/
def longestTagChain : Nat := 32

/-- The hash of the record behind so many tags. -/
def untagged (s : Store) : (fuel : Nat) → (hash : Text) → Text
  | 0, hash => hash
  | fuel + 1, hash =>
    match s.record? hash with
    | some r => if r.kind = .tag then s.untagged fuel (r.target?.getD hash) else hash
    | none => hash

/-- Adds the commits with the given hashes, and lists their parents. -/
def gather (s : Store) (known : Commits) (hashes : List Text) : Commits × List Text :=
  hashes.foldl (fun (known, parents) hash =>
    if known.contains hash then (known, parents)
    else
      match s.commit? hash with
      | none => (known, parents)
      | some c => (known.insert hash c, c.parents ++ parents)) (known, [])

/-- All commits that can be reached from the given hashes. Every round but the last one finds a
commit that was not known. -/
def reachable (s : Store) : (rounds : Nat) → Commits → (hashes : List Text) → Commits
  | 0, known, _ => known
  | rounds + 1, known, hashes =>
    match s.gather known hashes with
    | (known, []) => known
    | (known, parents) => s.reachable rounds known parents

end Store

/-! ## Arranging commits -/

/-- What is left to do when commits are arranged. -/
inductive Task where
  /-- Place a commit, and its parents before it. -/
  | place (hash : Text)
  /-- Place a commit whose parents have been placed. -/
  | close (hash : Text) (commit : StoredCommit)

/-- A graph, with the numbers of its commits. -/
structure Arrangement where
  /-- The commits that have been placed. -/
  graph : Graph := .empty
  /-- Their numbers. -/
  numbers : Std.HashMap Text Nat := {}

namespace Arrangement

/-- Places a commit after all others. -/
def add (a : Arrangement) (hash : Text) (c : StoredCommit) : Arrangement where
  graph := a.graph.push ⟨hash, c.message, c.parents.filterMap (a.numbers[·]?)⟩
  numbers := a.numbers.insert hash a.graph.size

/-- Does what is left to do, in so many steps at most. -/
def work (commits : Commits) : (fuel : Nat) → List Task → Arrangement → Arrangement
  | 0, _, a => a
  | _ + 1, [], a => a
  | fuel + 1, .close hash c :: rest, a => work commits fuel rest (a.add hash c)
  | fuel + 1, .place hash :: rest, a =>
    if a.numbers.contains hash then work commits fuel rest a
    else
      match commits[hash]? with
      | none => work commits fuel rest a
      | some c => work commits fuel (c.parents.map Task.place ++ .close hash c :: rest) a

/-- Arranges commits, as far as they can be reached from the given hashes. Each hash and each parent
is looked at once, and each commit is closed once. -/
def ofCommits (commits : Commits) (hashes : List Text) : Arrangement :=
  let steps := commits.fold (fun n _ c => n + c.parents.length + 1) hashes.length
  work commits (steps + 1) (hashes.map Task.place) {}

end Arrangement

/-! ## The repository -/

namespace Store

/-- The object with the given hash, where commits have numbers. -/
def object? (s : Store) (numbers : Std.HashMap Text Nat) :
    (fuel : Nat) → (hash : Text) → Option Object
  | 0, _ => none
  | fuel + 1, hash => do
    let r ← s.record? hash
    match r.kind with
    | .commit => numbers[hash]?.map .commit
    | .tag => (s.object? numbers fuel (← r.target?)).map .tag
    | .tree => some .tree
    | .blob => some .blob

/-- The repository in a store, as far as it is needed to compare the head with a base. -/
def repository? (s : Store) (base : Text) : Option Repository := do
  let head ← s.pointer? "HEAD".toList
  let name := ((Revision.parse? base).map Revision.name).getD []
  let full := Repository.fullNames name
  let inTheWay := s.files.keys.filter fun path => full.any (Repository.isBelow path)
  let names := full ++ inTheWay ++
    match head with
    | .symbolic name => [name]
    | .direct _ => []
  let refs := names.filterMap fun name => (s.hash? name).map (name, ·)
  let short := if Repository.leastAbbreviation ≤ name.length then s.starting name else []
  let detached :=
    match head with
    | .symbolic _ => []
    | .direct hash => [hash]
  let starts := (detached ++ refs.map (·.2) ++ short).map (s.untagged longestTagChain)
  let commits := s.reachable s.size {} starts
  let arrangement := Arrangement.ofCommits commits starts
  let object? := s.object? arrangement.numbers longestTagChain
  let refs := refs.filterMap fun (name, hash) => (object? hash).map (name, ·)
  match head with
  | .symbolic name => some ⟨arrangement.graph, refs, .symbolic name⟩
  | .direct hash => some ⟨arrangement.graph, refs, .detached (← object? hash)⟩

end Store

end CommitGate.Storage
