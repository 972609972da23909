/-!
# Inflating

Stored objects are compressed: a two-byte header, then blocks of bits, the least significant bit of
a byte first. A block is stored as it is, or coded in symbols for bytes and for repetitions of what
has been written before, with code words of its own or with the usual ones.
-/

namespace CommitGate.Storage

/-! ## Bits -/

/-- The bit at a position. -/
def bit? (data : ByteArray) (position : Nat) : Option Nat :=
  data[position / 8]?.map fun b => b.toNat >>> (position % 8) % 2

/-- The number that some bits write, the least significant bit first. -/
def bits? (data : ByteArray) : (count position : Nat) → Option Nat
  | 0, _ => some 0
  | n + 1, position => do
    let low ← bit? data position
    let high ← bits? data n (position + 1)
    some (low + 2 * high)

/-! ## Code words -/

/-- A code whose words are in order: shorter words come first, and words of one length are counted
up in the order of their symbols. -/
structure Code where
  /-- How many words there are of length one, two, and so on. -/
  counts : List Nat
  /-- The symbols in the order of their words. -/
  symbols : Array Nat

/-- The greatest length of a word. -/
def longestWord : Nat := 15

/-- The code in which the symbol `i` has a word of the `i`th length; zero stands for no word. -/
def Code.ofLengths (lengths : List Nat) : Code :=
  let sizes := (List.range longestWord).map (· + 1)
  { counts := sizes.map fun n => lengths.count n
    symbols := (sizes.flatMap fun n => (lengths.zipIdx.filter (·.1 = n)).map (·.2)).toArray }

/-- Reads a word bit by bit. `word` is what has been read, `first` the first word of the present
length, and `before` the number of shorter words. Gives the symbol and the position after its
word. -/
def Code.symbolFrom? (c : Code) (data : ByteArray) :
    (counts : List Nat) → (position word first before : Nat) → Option (Nat × Nat)
  | [], _, _, _, _ => none
  | count :: longer, position, word, first, before => do
    let word := word + (← bit? data position)
    if word < first + count then
      some (← c.symbols[before + (word - first)]?, position + 1)
    else
      c.symbolFrom? data longer (position + 1) (2 * word) (2 * (first + count)) (before + count)

/-- Reads the symbol at a position. -/
def Code.symbol? (c : Code) (data : ByteArray) (position : Nat) : Option (Nat × Nat) :=
  c.symbolFrom? data c.counts position 0 0 0

/-! ## Blocks -/

/-- The codes of a block. -/
structure BlockCodes where
  /-- The code of bytes and lengths. -/
  lengths : Code
  /-- The code of distances. -/
  distances : Code

/-- The usual codes. -/
def usualCodes : BlockCodes where
  lengths := .ofLengths (List.replicate 144 8 ++ List.replicate 112 9 ++ List.replicate 24 7 ++
    List.replicate 8 8)
  distances := .ofLengths (List.replicate 30 5)

/-- The least length of each length symbol, with the number of bits that are added to it. -/
def lengthTable : Array (Nat × Nat) := #[
  (3, 0), (4, 0), (5, 0), (6, 0), (7, 0), (8, 0), (9, 0), (10, 0), (11, 1), (13, 1), (15, 1),
  (17, 1), (19, 2), (23, 2), (27, 2), (31, 2), (35, 3), (43, 3), (51, 3), (59, 3), (67, 4), (83, 4),
  (99, 4), (115, 4), (131, 5), (163, 5), (195, 5), (227, 5), (258, 0)]

/-- The least distance of each distance symbol, with the number of bits that are added to it. -/
def distanceTable : Array (Nat × Nat) := #[
  (1, 0), (2, 0), (3, 0), (4, 0), (5, 1), (7, 1), (9, 2), (13, 2), (17, 3), (25, 3), (33, 4),
  (49, 4), (65, 5), (97, 5), (129, 6), (193, 6), (257, 7), (385, 7), (513, 8), (769, 8), (1025, 9),
  (1537, 9), (2049, 10), (3073, 10), (4097, 11), (6145, 11), (8193, 12), (12289, 12),
  (16385, 13), (24577, 13)]

/-- The number of a symbol in a table, with the bits at a position added to it. -/
def tableEntry? (table : Array (Nat × Nat)) (data : ByteArray) (symbol position : Nat) :
    Option (Nat × Nat) := do
  let (least, extra) ← table[symbol]?
  some (least + (← bits? data extra position), position + extra)

/-- Appends bytes that stand so far from the end; the copy may run into itself. -/
def repeated? (distance : Nat) : (length : Nat) → ByteArray → Option ByteArray
  | 0, out => some out
  | n + 1, out =>
    if distance ≤ out.size then do repeated? distance n (out.push (← out[out.size - distance]?))
    else none

/-- The symbol that ends a block. -/
def endOfBlock : Nat := 256

/-- Reads the symbols of a block up to its end. Each symbol takes a bit or more, so that there are
no more than `fuel` if that is the number of bits. -/
def symbols? (codes : BlockCodes) (data : ByteArray) :
    (fuel position : Nat) → ByteArray → Option (ByteArray × Nat)
  | 0, _, _ => none
  | fuel + 1, position, out => do
    let (symbol, position) ← codes.lengths.symbol? data position
    if symbol < endOfBlock then symbols? codes data fuel position (out.push symbol.toUInt8)
    else if symbol = endOfBlock then some (out, position)
    else do
      let (length, position) ← tableEntry? lengthTable data (symbol - endOfBlock - 1) position
      let (symbol, position) ← codes.distances.symbol? data position
      let (distance, position) ← tableEntry? distanceTable data symbol position
      symbols? codes data fuel position (← repeated? distance length out)

/-- The order in which the lengths of the code for lengths are written. -/
def lengthOrder : List Nat := [16, 17, 18, 0, 8, 7, 9, 6, 10, 5, 11, 4, 12, 3, 13, 2, 14, 1, 15]

/-- Reads code lengths until there are `wanted` of them; some symbols repeat lengths. -/
def codeLengths? (c : Code) (data : ByteArray) (wanted : Nat) :
    (fuel position : Nat) → (soFar : Array Nat) → Option (Array Nat × Nat)
  | 0, position, soFar => if soFar.size = wanted then some (soFar, position) else none
  | fuel + 1, position, soFar =>
    if wanted ≤ soFar.size then some (soFar, position)
    else do
      let (symbol, position) ← c.symbol? data position
      if symbol < 16 then codeLengths? c data wanted fuel position (soFar.push symbol)
      else do
        let (length, least, extra) ←
          if symbol = 16 then soFar.back?.map (·, 3, 2)
          else if symbol = 17 then some (0, 3, 3)
          else some (0, 11, 7)
        let times := least + (← bits? data extra position)
        codeLengths? c data wanted fuel (position + extra) (soFar ++ Array.replicate times length)

/-- Reads the codes that a block brings along. -/
def ownCodes? (data : ByteArray) (position : Nat) : Option (BlockCodes × Nat) := do
  let lengths := 257 + (← bits? data 5 position)
  let distances := 1 + (← bits? data 5 (position + 5))
  let count := 4 + (← bits? data 4 (position + 10))
  let position := position + 14
  let written ← (List.range count).mapM fun i => bits? data 3 (position + 3 * i)
  let places := lengthOrder.zip written
  let code := Code.ofLengths ((List.range 19).map fun i => (places.lookup i).getD 0)
  let total := lengths + distances
  let (all, position) ← codeLengths? code data total total (position + 3 * count) #[]
  some (⟨.ofLengths (all.toList.take lengths), .ofLengths (all.toList.drop lengths)⟩, position)

/-- Reads a block that is stored as it is. -/
def storedBlock? (data : ByteArray) (position : Nat) (out : ByteArray) :
    Option (ByteArray × Nat) := do
  let start := (position + 7) / 8
  let length ← bits? data 16 (8 * start)
  if start + 4 + length ≤ data.size then
    some (out ++ data.extract (start + 4) (start + 4 + length), 8 * (start + 4 + length))
  else none

/-- Reads blocks up to the last one. -/
def blocks? (data : ByteArray) : (fuel position : Nat) → ByteArray → Option ByteArray
  | 0, _, _ => none
  | fuel + 1, position, out => do
    let last ← bit? data position
    let kind ← bits? data 2 (position + 1)
    let position := position + 3
    let limit := 8 * data.size
    let (out, position) ←
      if kind = 0 then storedBlock? data position out
      else if kind = 1 then symbols? usualCodes data limit position out
      else if kind = 2 then do
        let (codes, position) ← ownCodes? data position
        symbols? codes data limit position out
      else none
    if last = 1 then some out else blocks? data fuel position out

/-- The bytes that are compressed from the given byte on. -/
def inflate? (data : ByteArray) (start : Nat) : Option ByteArray := do
  let method ← bits? data 4 (8 * start)
  if method = 8 then blocks? data (8 * data.size) (8 * (start + 2)) .empty else none

end CommitGate.Storage
