import CommitGate.Storage.Record

/-!
# Packs

A pack holds many records in one file, and an index of them in another: the hashes in rising order,
and for each the position of its entry. An entry holds a record, or a patch that makes a record out
of another one of the pack.
-/

namespace CommitGate.Storage

/-- A pack. -/
structure Pack where
  /-- The index. -/
  index : ByteArray
  /-- The entries. -/
  entries : ByteArray

/-- The number that some bytes write, the most significant byte first. -/
def number? (data : ByteArray) (count position : Nat) : Option Nat :=
  (List.range count).foldlM (fun n i => data[position + i]?.map fun b => 256 * n + b.toNat) 0

/-- Bytes in hexadecimal digits. -/
def hexadecimal (bs : List UInt8) : Text :=
  bs.flatMap fun b => [Nat.digitChar (b.toNat / 16), Nat.digitChar (b.toNat % 16)]

/-- The number of bytes in a hash. -/
def hashSize : Nat := 20

/-- The hash at a position. -/
def hash? (data : ByteArray) (position : Nat) : Option Text :=
  if position + hashSize ≤ data.size then
    some (hexadecimal (data.extract position (position + hashSize)).toList)
  else none

/-! ## Numbers of any size -/

/-- The greatest number of bytes that a number of any size takes. -/
def longestNumber : Nat := 10

/-- Reads a number in groups of seven bits, the lowest group first; a byte that is not the last has
its high bit set. Gives the number and the position after it. -/
def grouped? (data : ByteArray) : (fuel position : Nat) → Option (Nat × Nat)
  | 0, _ => none
  | fuel + 1, position => do
    let byte := (← data[position]?).toNat
    if byte < 128 then some (byte, position + 1)
    else
      let (high, next) ← grouped? data fuel (position + 1)
      some (byte - 128 + 128 * high, next)

/-- Reads a number in groups of seven bits, the highest group first. One is added before each
further group, so that no number can be written twice. -/
def distance? (data : ByteArray) : (fuel soFar position : Nat) → Option (Nat × Nat)
  | 0, _, _ => none
  | fuel + 1, soFar, position => do
    let byte := (← data[position]?).toNat
    if byte < 128 then some (128 * soFar + byte, position + 1)
    else distance? data fuel (128 * soFar + (byte - 128) + 1) (position + 1)

/-- Reads a number whose bytes, the lowest first, are there only where the bit of `flags` is set. -/
def sparse? (data : ByteArray) : (count flags position : Nat) → Option (Nat × Nat)
  | 0, _, position => some (0, position)
  | count + 1, flags, position =>
    if flags % 2 = 1 then do
      let low ← data[position]?
      let (high, next) ← sparse? data count (flags / 2) (position + 1)
      some (low.toNat + 256 * high, next)
    else do
      let (high, next) ← sparse? data count (flags / 2) position
      some (256 * high, next)

/-! ## Patches -/

/-- The number of bytes that a copy takes if no number is written. -/
def usualCopy : Nat := 0x10000

/-- Follows the instructions of a patch: each copies bytes of the base, or brings its own. -/
def patchFrom? (base patch : ByteArray) : (fuel position : Nat) → ByteArray → Option ByteArray
  | 0, _, _ => none
  | fuel + 1, position, out =>
    if patch.size ≤ position then some out
    else do
      let byte := (← patch[position]?).toNat
      if byte < 128 then
        let stop := position + 1 + byte
        if byte = 0 ∨ patch.size < stop then none
        else patchFrom? base patch fuel stop (out ++ patch.extract (position + 1) stop)
      else
        let (start, position) ← sparse? patch 4 byte (position + 1)
        let (written, position) ← sparse? patch 3 (byte / 16) position
        let size := if written = 0 then usualCopy else written
        if base.size < start + size then none
        else patchFrom? base patch fuel position (out ++ base.extract start (start + size))

/-- What a patch makes of a base. The sizes of both stand in front of the instructions. -/
def patched? (base patch : ByteArray) : Option ByteArray := do
  let (_, position) ← grouped? patch longestNumber 0
  let (_, position) ← grouped? patch longestNumber position
  patchFrom? base patch (patch.size + 1) position .empty

namespace Pack

/-! ## The index -/

/-- Where the hashes of an index start, after a table of 256 numbers. -/
def firstHash : Nat := 8 + 4 * 256

/-- The number of entries. -/
def size (p : Pack) : Nat := (number? p.index 4 (firstHash - 4)).getD 0

/-- The hash of an entry. -/
def hashOf? (p : Pack) (entry : Nat) : Option Text :=
  if entry < p.size then hash? p.index (firstHash + hashSize * entry) else none

/-- The highest bit of a position of 32 bits. -/
def longPosition : Nat := 0x80000000

/-- Where an entry starts. A position of 32 bits with the highest one set stands for a place in the
table of longer positions. -/
def position? (p : Pack) (entry : Nat) : Option Nat := do
  let positions := firstHash + (hashSize + 4) * p.size
  let short ← number? p.index 4 (positions + 4 * entry)
  if short < longPosition then some short
  else number? p.index 8 (positions + 4 * p.size + 8 * (short - longPosition))

/-- Looks for a hash among the entries from `low` up to `high`. -/
def search (p : Pack) (hash : Text) (low high : Nat) : Option Nat :=
  if low < high then
    let middle := (low + high) / 2
    match p.hashOf? middle with
    | none => none
    | some found =>
      if found = hash then some middle
      else if found < hash then p.search hash (middle + 1) high
      else p.search hash low middle
  else none
termination_by high - low

/-- Where the entry with a hash starts. -/
def find? (p : Pack) (hash : Text) : Option Nat := (p.search hash 0 p.size).bind p.position?

/-- The hashes that start with the given text. -/
def starting (p : Pack) (start : Text) : List Text :=
  ((List.range p.size).filterMap p.hashOf?).filter start.isPrefixOf

/-! ## The entries -/

/-- The kind with the given number. -/
def kindOf? : Nat → Option Kind
  | 1 => some .commit
  | 2 => some .tree
  | 3 => some .blob
  | 4 => some .tag
  | _ => none

/-- The record of the entry at a position. A patch needs its base first; a chain of patches is no
longer than the number of entries. -/
def recordAt? (p : Pack) : (fuel position : Nat) → Option Record
  | 0, _ => none
  | fuel + 1, position => do
    let byte := (← p.entries[position]?).toNat
    let (_, start) ← grouped? p.entries longestNumber position
    let number := byte / 16 % 8
    match kindOf? number with
    | some kind => some ⟨kind, ← inflate? p.entries start⟩
    | none =>
      let (place, start) ←
        if number = 6 then do
          let (back, start) ← distance? p.entries longestNumber 0 start
          if back ≤ position then some (position - back, start) else none
        else if number = 7 then do
          let place ← p.find? (← hash? p.entries start)
          some (place, start + hashSize)
        else none
      let base ← p.recordAt? fuel place
      some { base with body := ← patched? base.body (← inflate? p.entries start) }

/-- The record with the given hash. -/
def record? (p : Pack) (hash : Text) : Option Record := (p.find? hash).bind (p.recordAt? p.size)

end Pack

end CommitGate.Storage
