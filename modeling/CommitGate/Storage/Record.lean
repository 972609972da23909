import CommitGate.Storage.Inflate
import CommitGate.Text.Basic

/-!
# Records

A repository stores records: commits, directory trees, contents of files, and tags. A record has a
kind and a body. The body of a commit or a tag starts with header lines, each with a word in front;
an empty line ends them, and the message follows.
-/

namespace CommitGate.Storage

/-- The kinds of records. -/
inductive Kind where
  /-- A commit. -/
  | commit
  /-- A directory tree. -/
  | tree
  /-- The content of a file. -/
  | blob
  /-- A tag for another record. -/
  | tag
  deriving DecidableEq, Repr

namespace Kind

/-- The name of a kind. -/
def name : Kind → Text
  | commit => "commit".toList
  | tree => "tree".toList
  | blob => "blob".toList
  | tag => "tag".toList

/-- The kind with the given name. -/
def ofName? (t : Text) : Option Kind := [commit, tree, blob, tag].find? (·.name = t)

end Kind

/-- A stored record. -/
structure Record where
  /-- What it is. -/
  kind : Kind
  /-- What it holds. -/
  body : ByteArray

/-- Bytes as a text, one character for each byte. -/
def plain (bs : List UInt8) : Text := bs.map fun b => Char.ofNat b.toNat

namespace Record

/-- The record in a file of its own. Inflated, the file names the kind and the size, separated by a
space, and a zero byte stands before the body. -/
def ofFile? (file : ByteArray) : Option Record := do
  let data ← inflate? file 0
  let stop ← data.toList.findIdx? (· = 0)
  let kind ← Kind.ofName? ((plain (data.extract 0 stop).toList).takeWhile (· ≠ ' '))
  some ⟨kind, data.extract (stop + 1) data.size⟩

/-- The lines of the body. -/
def lines (r : Record) : List (List UInt8) := r.body.toList.splitOn 0x0A

/-- What header lines with the given word in front say. -/
def header (r : Record) (word : Text) : List Text :=
  (r.lines.takeWhile (· ≠ [])).filterMap fun line =>
    let t := plain line
    if (word ++ [' ']).isPrefixOf t then some (t.drop (word.length + 1)) else none

/-- The hashes of the parents of a commit, the first parent first. -/
def parents (r : Record) : List Text := r.header "parent".toList

/-- The hash of what a tag is for. -/
def target? (r : Record) : Option Text := (r.header "object".toList).head?

/-- The message. -/
def message (r : Record) : List UInt8 :=
  [0x0A].intercalate ((r.lines.dropWhile (· ≠ [])).drop 1)

end Record

end CommitGate.Storage
