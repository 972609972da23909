import Std.Data.HashMap
import CommitGate.Storage.Pack
import CommitGate.Storage.Pointer

/-!
# Stores

A store is what the files of a repository hold: records, each in a file of its own or in a pack, and
pointers by their names. A hash leads to one record, and a name to a hash, maybe by way of other
names.
-/

namespace CommitGate.Storage

/-- Texts are hashed as lists of characters. -/
instance : Hashable Text := @instHashableList Char instHashableChar

/-- The files of a repository. -/
structure Store where
  /-- The files, by their paths from the top of the repository. -/
  files : Std.HashMap Text ByteArray
  /-- The packs among them. -/
  packs : List Pack
  /-- The packed references. -/
  packed : List (Text × Pointer)

namespace Store

/-- Where files with single records and packs are. -/
def recordsDirectory : Text := "objects/".toList

/-- The path of the file with the record of a hash. -/
def recordPath (hash : Text) : Text := recordsDirectory ++ hash.take 2 ++ '/' :: hash.drop 2

/-- The hash whose record is in the file with the given path. -/
def hashOf? (path : Text) : Option Text :=
  let hash := (path.drop recordsDirectory.length).filter (· ≠ '/')
  if hash.length = 2 * hashSize ∧ recordPath hash = path then some hash else none

/-- The text in a file. -/
def text? (files : Std.HashMap Text ByteArray) (path : Text) : Option Text :=
  files[path]?.bind fun data => Utf8.decode? data.toList

/-- The pack whose index has the given path. -/
def pack? (files : Std.HashMap Text ByteArray) (path : Text) : Option Pack := do
  let stem := path.take (path.length - 4)
  if stem ++ ".idx".toList = path then
    some ⟨← files[path]?, ← files[stem ++ ".pack".toList]?⟩
  else none

/-- The store in some files. -/
def ofFiles (files : List (Text × ByteArray)) : Store :=
  let byPath := Std.HashMap.ofList files
  { files := byPath
    packs := files.filterMap fun (path, _) => pack? byPath path
    packed := ((text? byPath "packed-refs".toList).map Pointer.packed).getD [] }

/-- Whether a directory with the given names in it is the top of a repository. A top can share
records and references with another one; a file says where that is. -/
def isTop (names : List Text) : Bool :=
  names.contains "HEAD".toList &&
    (names.contains "commondir".toList ||
      names.contains "objects".toList && names.contains "refs".toList)

/-! ## Records -/

/-- The record with the given hash. -/
def record? (s : Store) (hash : Text) : Option Record :=
  (s.files[recordPath hash]?.bind Record.ofFile?).or (s.packs.findSome? (·.record? hash))

/-- No fewer than the number of records. -/
def size (s : Store) : Nat := s.packs.foldl (fun n p => n + p.size) s.files.size

/-- The hashes that start with the given text. -/
def starting (s : Store) (start : Text) : List Text :=
  (s.files.keys.filterMap hashOf?).filter start.isPrefixOf ++ s.packs.flatMap (·.starting start)

/-! ## Names -/

/-- The pointer with the given name. -/
def pointer? (s : Store) (name : Text) : Option Pointer :=
  ((text? s.files name).map Pointer.ofText).or (s.packed.lookup name)

/-- The hash that a name leads to by way of no more than so many names. -/
def hashFrom? (s : Store) : (fuel : Nat) → (name : Text) → Option Text
  | 0, _ => none
  | fuel + 1, name =>
    match s.pointer? name with
    | some (.direct hash) => some hash
    | some (.symbolic other) => s.hashFrom? fuel other
    | none => none

/-- The greatest number of names on the way to a hash. -/
def longestWay : Nat := 5

/-- The hash that a name leads to. -/
def hash? (s : Store) (name : Text) : Option Text := s.hashFrom? longestWay name

end Store

end CommitGate.Storage
