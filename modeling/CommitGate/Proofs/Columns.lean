import CommitGate.Proofs.Layout
import Mathlib.Order.MinMax

/-!
# Columns and byte offsets

A highlight counts characters, while a line in its UTF-8 form is cut at byte offsets. The offset of
a column is looked up among the offsets at which the characters of the line start; a column past the
line has the offset of its end. A cut inside a character, past the end or at offsets out of order is
refused. None of this happens to a highlight, whatever its columns are: the cut at its offsets is
the cut at its columns, and takes nothing from the line.
-/

namespace CommitGate

namespace Text

/-! ## Cuts at byte offsets -/

/-- Whether a text may be cut at a byte offset: a character starts there, or the text ends. -/
def isBoundary (t : Text) (offset : Nat) : Bool :=
  match t.bytes[offset]? with
  | some b => decide b.IsUTF8FirstByte
  | none => offset == t.bytes.length

/-- The bytes of a text between two offsets, unless they are out of order or the text may not be cut
there. -/
def slice? (t : Text) (first last : Nat) : Option (List UInt8) :=
  if first ≤ last ∧ t.isBoundary first ∧ t.isBoundary last then
    some ((t.bytes.take last).drop first)
  else none

/-- The offsets at which the characters of a text start, if the text itself starts at the given
one. -/
def starts (first : Nat) : Text → List Nat
  | [] => []
  | c :: rest => first :: starts (first + c.utf8Size) rest

/-- The offset of a column, which is that of the end if the text has no such column. -/
def columnOffset (t : Text) (column : Nat) : Nat := (t.starts 0)[column]?.getD t.bytes.length

/-- A line cut at the offsets of two columns, the second of which counts as the first if it comes
before it. -/
def cutColumns? (line : Text) (start stop : Nat) :
    Option (List UInt8 × List UInt8 × List UInt8) := do
  let first := line.columnOffset start
  let last := max (line.columnOffset stop) first
  return (← line.slice? 0 first, ← line.slice? first last, ← line.slice? last line.bytes.length)

variable {t : Text} {i j n : Nat}

/-! ## Boundaries -/

theorem isBoundary_nil_iff : isBoundary [] n = true ↔ n = 0 := by
  simp [isBoundary, bytes]

/-- A text that starts with a character may be cut before it and not inside it. -/
theorem isBoundary_cons_iff {c : Char} {rest : Text} : isBoundary (c :: rest) n = true ↔
    n = 0 ∨ ∃ m, n = c.utf8Size + m ∧ isBoundary rest m = true := by
  have hlength := String.length_utf8EncodeChar c
  unfold isBoundary
  rw [bytes_cons]
  -- within the bytes of the first character only the first one starts a character; the bytes after
  -- them are those of the rest
  by_cases hinside : n < c.utf8Size
  · have hbound : n < (String.utf8EncodeChar c).length := by omega
    rw [List.getElem?_append_left hbound, List.getElem?_eq_getElem hbound]
    simp only [decide_eq_true_eq, UInt8.isUTF8FirstByte_getElem_utf8EncodeChar]
    constructor
    · intro hzero
      exact .inl hzero
    · rintro (hzero | ⟨m, rfl, -⟩)
      · exact hzero
      · omega
  · obtain ⟨m, rfl⟩ := Nat.exists_eq_add_of_le (not_lt.mp hinside)
    have hpos := c.utf8Size_pos
    have hafter : (String.utf8EncodeChar c ++ bytes rest)[c.utf8Size + m]? = (bytes rest)[m]? := by
      rw [List.getElem?_append_right (by omega), hlength, Nat.add_sub_cancel_left]
    have hend : (c.utf8Size + m == (String.utf8EncodeChar c ++ bytes rest).length) =
        (m == (bytes rest).length) := by
      rw [List.length_append, hlength]
      grind
    rw [hafter, hend]
    constructor
    · intro h
      exact .inr ⟨m, rfl, h⟩
    · rintro (hzero | ⟨m', hm', h⟩)
      · omega
      · obtain rfl : m = m' := by omega
        exact h

/-- A text may be cut just where the form of one of its beginnings ends. -/
theorem isBoundary_iff : t.isBoundary n = true ↔ ∃ s : Text, s <+: t ∧ s.bytes.length = n := by
  induction t generalizing n with
  | nil =>
    rw [isBoundary_nil_iff]
    constructor
    · rintro rfl
      exact ⟨[], List.prefix_rfl, rfl⟩
    · rintro ⟨s, hs, rfl⟩
      rw [List.prefix_nil.mp hs]
      rfl
  | cons c rest ih =>
    have hlength : ∀ s : Text, (bytes (c :: s)).length = c.utf8Size + s.bytes.length := by
      intro s
      rw [bytes_cons, List.length_append, String.length_utf8EncodeChar]
    rw [isBoundary_cons_iff]
    constructor
    · rintro (rfl | ⟨m, rfl, hm⟩)
      · exact ⟨[], List.nil_prefix, rfl⟩
      · obtain ⟨s, hs, rfl⟩ := ih.mp hm
        exact ⟨c :: s, List.cons_prefix_cons.mpr ⟨rfl, hs⟩, hlength s⟩
    · rintro ⟨s, hs, rfl⟩
      cases s with
      | nil => exact .inl rfl
      | cons d s =>
        obtain ⟨rfl, hrest⟩ := List.cons_prefix_cons.mp hs
        exact .inr ⟨(bytes s).length, hlength s, ih.mpr ⟨s, hrest, rfl⟩⟩

/-! ## The offset of a column -/

theorem getElem?_starts (first : Nat) (t : Text) (column : Nat) : (t.starts first)[column]? =
    if column < t.length then some (first + (bytes (t.take column)).length) else none := by
  induction t generalizing first column with
  | nil => rfl
  | cons c rest ih =>
    cases column with
    | zero => rfl
    | succ column =>
      have hlength : (bytes ((c :: rest).take (column + 1))).length =
          c.utf8Size + (bytes (rest.take column)).length := by
        rw [List.take_succ_cons, bytes_cons, List.length_append, String.length_utf8EncodeChar]
      rw [starts, List.getElem?_cons_succ, ih, hlength, List.length_cons]
      simp only [Nat.add_lt_add_iff_right, Nat.add_assoc]

/-- Before a column stand the bytes of the characters before it. -/
theorem columnOffset_eq (t : Text) (column : Nat) :
    t.columnOffset column = (bytes (t.take column)).length := by
  unfold columnOffset
  rw [getElem?_starts]
  split_ifs with hcolumn
  · rw [Option.getD_some, Nat.zero_add]
  · rw [Option.getD_none, List.take_of_length_le (not_lt.mp hcolumn)]

theorem bytes_take_append (t : Text) (h : i ≤ j) :
    bytes (t.take j) = bytes (t.take i) ++ bytes ((t.take j).drop i) := by
  rw [← bytes_append]
  congr 1
  have htake : t.take i = (t.take j).take i := by rw [List.take_take, Nat.min_eq_left h]
  rw [htake, List.take_append_drop]

theorem columnOffset_monotone (t : Text) : Monotone t.columnOffset := by
  intro i j h
  rw [columnOffset_eq, columnOffset_eq, bytes_take_append t h, List.length_append]
  exact Nat.le_add_right _ _

theorem columnOffset_of_length_le (h : t.length ≤ i) : t.columnOffset i = t.bytes.length := by
  rw [columnOffset_eq, List.take_of_length_le h]

/-- Every column, also one past the end, has an offset at which the text may be cut. -/
theorem isBoundary_columnOffset (t : Text) (column : Nat) :
    t.isBoundary (t.columnOffset column) = true :=
  isBoundary_iff.mpr ⟨t.take column, List.take_prefix column t, (columnOffset_eq t column).symm⟩

/-- Between the offsets of two columns is the form of the characters between them. -/
theorem slice?_columnOffset (t : Text) (h : i ≤ j) :
    t.slice? (t.columnOffset i) (t.columnOffset j) = some (bytes ((t.take j).drop i)) := by
  have hall : t.bytes = bytes (t.take j) ++ bytes (t.drop j) := by
    rw [← bytes_append, List.take_append_drop]
  have htake : t.bytes.take (t.columnOffset j) = bytes (t.take j) := by
    rw [columnOffset_eq, hall, List.take_left]
  have hdrop : (bytes (t.take j)).drop (t.columnOffset i) = bytes ((t.take j).drop i) := by
    rw [columnOffset_eq, bytes_take_append t h, List.drop_left]
  unfold slice?
  rw [if_pos ⟨columnOffset_monotone t h, isBoundary_columnOffset t i, isBoundary_columnOffset t j⟩,
    htake, hdrop]

/-- The cut at the offsets of two columns is never refused, and is the cut at the columns. -/
theorem cutColumns?_eq (line : Text) (start stop : Nat) : line.cutColumns? start stop =
    some (bytes (line.take start), bytes ((line.take stop).drop start),
      bytes (line.drop (max start stop))) := by
  have hmax : max (line.columnOffset stop) (line.columnOffset start) =
      line.columnOffset (max stop start) := (Monotone.map_max (columnOffset_monotone line)).symm
  have hbefore : line.slice? 0 (line.columnOffset start) = some (bytes (line.take start)) := by
    have hstart : line.columnOffset 0 = 0 := columnOffset_eq line 0
    rw [← hstart, slice?_columnOffset line (Nat.zero_le start), List.drop_zero]
  have hinside : line.slice? (line.columnOffset start) (line.columnOffset (max stop start)) =
      some (bytes ((line.take stop).drop start)) := by
    rw [slice?_columnOffset line (Nat.le_max_right stop start), List.drop_take, List.drop_take]
    congr 3
    omega
  have hafter : line.slice? (line.columnOffset (max stop start)) line.bytes.length =
      some (bytes (line.drop (max start stop))) := by
    -- the end of the line is the offset of every column past it, also of one past the highlight
    have hend : line.columnOffset (max line.length (max stop start)) = line.bytes.length :=
      columnOffset_of_length_le (Nat.le_max_left _ _)
    rw [← hend, slice?_columnOffset line (Nat.le_max_right _ _),
      List.take_of_length_le (Nat.le_max_left _ _), Nat.max_comm]
  unfold cutColumns?
  dsimp only
  rw [hmax, hbefore, hinside, hafter]
  rfl

end Text

/-- A line is cut between characters at the columns of a highlight, also if they are out of order or
past the end, and the parts are the line again. The first part ends where the highlight starts or
the line ends, and the second one has the highlighted characters that are there. -/
theorem highlight_cut_between_characters (line : Text) (start stop : Nat) :
    ∃ before inside after : Text,
      splitColumns line start stop = (before, inside, after) ∧
      line.cutColumns? start stop = some (before.bytes, inside.bytes, after.bytes) ∧
      before ++ inside ++ after = line ∧
      before.length = min start line.length ∧
      (inside.length : Int) = max 0 (min stop line.length - min start line.length) := by
  refine ⟨_, _, _, rfl, Text.cutColumns?_eq line start stop, ?_, ?_, ?_⟩
  · by_cases hle : start ≤ stop
    · exact append_splitColumns hle
    · have hinside : (line.take stop).drop start = [] :=
        List.drop_eq_nil_of_le ((List.length_take_le stop line).trans (by omega))
      rw [hinside, List.append_nil, max_eq_left (by omega), List.take_append_drop]
  · exact List.length_take
  · rw [List.length_drop, List.length_take]
    omega

/-- A cut between the two bytes of a character is refused, and columns lead to none. -/
example : Text.slice? "né".toList 2 3 = none ∧
    Text.cutColumns? "né".toList 1 9 = some ([0x6E], [0xC3, 0xA9], []) := by
  decide

end CommitGate
