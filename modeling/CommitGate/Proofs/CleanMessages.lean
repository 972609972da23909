import CommitGate.Proofs.Cleanup

/-!
# Clean messages

A message is clean if it is empty, or if its lines start and end with content, no two neighbours are
empty, and none is a comment or ends in a blank. Cleaning gives clean messages, and it leaves them as
they are: no line of a clean message is dropped or shortened, and joining its lines gives it back.
-/

namespace CommitGate

/-! ## Clean lines -/

/-- Lines with nothing about them that cleaning would change. -/
structure CleanLines (ls : List Text) : Prop where
  /-- The first line has content. -/
  first : ls.head? ≠ some []
  /-- The last line has content. -/
  last : ls.getLast? ≠ some []
  /-- Of two neighbouring lines, one has content. -/
  neighbours : ls.IsChain fun l next => l = [] → next ≠ []
  /-- No line is a comment. -/
  no_comment : ∀ l ∈ ls, l.head? ≠ some '#'
  /-- No line ends in a blank. -/
  no_trailing : ∀ l ∈ ls, ∀ c, l.getLast? = some c → Text.isBlank c = false

/-- A line that is no comment does not become one by losing the blanks at its end. -/
theorem head?_ne_of_mem_contentLines {raw l : Text} (h : l ∈ contentLines raw) :
    l.head? ≠ some '#' := by
  obtain ⟨t, ht, rfl⟩ := List.mem_map.mp h
  have hcomment : t.head? ≠ some '#' := by simpa using List.of_mem_filter ht
  have hprefix : t.trimEnd <+: t := List.rdropWhile_prefix Text.isBlank t
  intro hhead
  obtain ⟨rest, hrest⟩ := hprefix
  rw [← hrest, List.head?_append, hhead, Option.some_or] at hcomment
  exact hcomment rfl

/-- The lines of a cleaned message are clean. -/
theorem cleanLines_cleanedLines (raw : Text) : CleanLines (cleanedLines raw) where
  first := head?_cleanedLines raw
  last := getLast?_cleanedLines raw
  neighbours := by
    have hchain := isChain_squeeze false (contentLines raw)
    unfold cleanedLines dropLastEmpty
    split_ifs
    · exact hchain.dropLast
    · exact hchain
  no_comment := fun _ hl => head?_ne_of_mem_contentLines (mem_contentLines_of_mem_cleanedLines hl)
  no_trailing := fun _ hl => Text.trimEnd_eq_self_iff.mp (trimEnd_of_mem_cleanedLines hl)

/-! ## What cleaning does to clean lines -/

/-- No line is dropped where every empty one comes after a line with content. -/
theorem squeeze_eq_self {ls : List Text} {afterContent : Bool}
    (hstart : afterContent = false → ls.head? ≠ some [])
    (hchain : ls.IsChain fun l next => l = [] → next ≠ []) : squeeze afterContent ls = ls := by
  fun_induction squeeze afterContent ls with
  | case1 => rfl
  | case2 rest ih =>
    rw [List.isChain_cons] at hchain
    rw [ih (fun _ hhead => hchain.1 [] hhead rfl rfl) hchain.2]
  | case3 afterContent rest hno ih => exact absurd rfl (hstart (Bool.not_eq_true _ ▸ hno))
  | case4 afterContent l rest hl ih =>
    rw [ih (fun hno => absurd hno (by decide)) (List.isChain_cons.mp hchain).2]

namespace CleanLines

variable {m : Text}

theorem lines_eq (h : CleanLines (m.splitOn '\n')) : m.lines = m.splitOn '\n' := by
  refine Text.linesOfPieces_eq_self (fun l hl hreturn => ?_) h.last
  exact absurd (h.no_trailing l hl '\r' hreturn) (by decide)

/-- Of a message with clean lines, every line can be part of the recorded message as it is. -/
theorem contentLines_eq (h : CleanLines (m.splitOn '\n')) : contentLines m = m.splitOn '\n' := by
  have hscissors : ∀ l ∈ m.splitOn '\n', (l != scissorsLine) = true := by
    intro l hl
    rw [bne_iff_ne]
    rintro rfl
    exact h.no_comment _ hl rfl
  have hcomment : ∀ l ∈ m.splitOn '\n', (l.head? != some '#') = true :=
    fun l hl => bne_iff_ne.mpr (h.no_comment l hl)
  have htrim : ∀ l ∈ m.splitOn '\n', Text.trimEnd l = l :=
    fun l hl => Text.trimEnd_eq_self_iff.mpr (h.no_trailing l hl)
  rw [contentLines, h.lines_eq, List.takeWhile_eq_self_iff.mpr hscissors,
    List.filter_eq_self.mpr hcomment, List.map_congr_left htrim, List.map_id']

/-- Cleaning leaves a message with clean lines as it is. -/
theorem cleanup_eq_self (h : CleanLines (m.splitOn '\n')) : cleanup m = m := by
  have hsqueeze : squeeze false (m.splitOn '\n') = m.splitOn '\n' :=
    squeeze_eq_self (fun _ => h.first) h.neighbours
  have hlast : dropLastEmpty (m.splitOn '\n') = m.splitOn '\n' := if_neg h.last
  rw [cleanup, h.contentLines_eq, hsqueeze, hlast]
  exact List.intercalate_splitOn '\n'

end CleanLines

/-! ## Cleaning as a projection -/

/-- A cleaned message with content comes apart into its cleaned lines. -/
theorem splitOn_cleanup {raw : Text} (h : cleanup raw ≠ []) :
    (cleanup raw).splitOn '\n' = cleanedLines raw := by
  have hfeed : ∀ l ∈ cleanedLines raw, '\n' ∉ l := by
    intro l hl
    rw [← lines_cleanup] at hl
    exact Text.newline_not_mem_of_mem_lines hl
  have hne : cleanedLines raw ≠ [] := by
    intro hnone
    rw [cleanup_eq_joinLines, hnone] at h
    exact h rfl
  exact List.splitOn_intercalate '\n' hfeed hne

/-- A cleaned message is empty, or its lines are clean. -/
theorem eq_nil_or_cleanLines_cleanup (raw : Text) :
    cleanup raw = [] ∨ CleanLines ((cleanup raw).splitOn '\n') := by
  by_cases hnil : cleanup raw = []
  · exact .inl hnil
  · right
    rw [splitOn_cleanup hnil]
    exact cleanLines_cleanedLines raw

theorem cleanup_eq_self_of_clean {m : Text} (h : m = [] ∨ CleanLines (m.splitOn '\n')) :
    cleanup m = m := by
  rcases h with rfl | hclean
  · rfl
  · exact hclean.cleanup_eq_self

/-- Cleaning a cleaned message changes nothing. The messages that cleaning leaves as they are are the
empty one and those whose lines start and end with content, have no two empty neighbours and hold no
comment and no blank at an end. -/
theorem cleanup_projects_onto_clean :
    (∀ raw : Text, cleanup (cleanup raw) = cleanup raw) ∧
    ∀ m : Text, cleanup m = m ↔ m = [] ∨ CleanLines (m.splitOn '\n') := by
  constructor
  · intro raw
    exact cleanup_eq_self_of_clean (eq_nil_or_cleanLines_cleanup raw)
  · intro m
    constructor
    · intro h
      rw [← h]
      exact eq_nil_or_cleanLines_cleanup m
    · exact cleanup_eq_self_of_clean

end CommitGate
