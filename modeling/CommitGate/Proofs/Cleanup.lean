import CommitGate.Cleanup
import CommitGate.Proofs.Blank
import CommitGate.Proofs.Lines
import Mathlib.Data.List.Chain

/-!
# Cleaned messages

Of neighbouring lines that squeezing keeps, one has content, so that a cleaned message ends in a
line with content. Lines lose the blanks that they end in, and with them a cleaned message does: the
line feed that is added when it is recorded makes no difference to its lines.
-/

namespace CommitGate

/-! ## Runs of empty lines -/

theorem squeeze_sublist (afterContent : Bool) (ls : List Text) :
    (squeeze afterContent ls).Sublist ls := by
  fun_induction squeeze afterContent ls with
  | case1 => exact .slnil
  | case2 rest ih => exact ih.cons_cons []
  | case3 afterContent rest h ih => exact ih.cons []
  | case4 afterContent l rest hl ih => exact ih.cons_cons l

/-- No empty line is kept before the first line with content. -/
theorem head?_squeeze_false (ls : List Text) : (squeeze false ls).head? ≠ some [] := by
  induction ls with
  | nil => simp [squeeze]
  | cons l rest ih =>
    by_cases hl : l = []
    · simpa [squeeze, hl] using ih
    · simp [squeeze, hl]

/-- Of two neighbouring lines that are kept, one has content. -/
theorem isChain_squeeze (afterContent : Bool) (ls : List Text) :
    (squeeze afterContent ls).IsChain fun l next => l = [] → next ≠ [] := by
  fun_induction squeeze afterContent ls with
  | case1 => exact .nil
  | case2 rest ih =>
    refine ih.cons fun next hnext _ hempty => ?_
    subst hempty
    exact head?_squeeze_false rest hnext
  | case3 afterContent rest h ih => exact ih
  | case4 afterContent l rest hl ih => exact ih.cons fun _ _ hempty => absurd hempty hl

theorem dropLastEmpty_sublist (ls : List Text) : (dropLastEmpty ls).Sublist ls := by
  unfold dropLastEmpty
  split_ifs
  · exact List.dropLast_sublist ls
  · exact List.Sublist.refl ls

/-! ## The lines of a cleaned message -/

/-- The lines of a cleaned message. -/
def cleanedLines (raw : Text) : List Text := dropLastEmpty (squeeze false (contentLines raw))

theorem cleanup_eq_joinLines (raw : Text) : cleanup raw = Text.joinLines (cleanedLines raw) := rfl

theorem mem_contentLines_of_mem_cleanedLines {raw l : Text} (h : l ∈ cleanedLines raw) :
    l ∈ contentLines raw :=
  (squeeze_sublist false _).subset ((dropLastEmpty_sublist _).subset h)

/-- The last line of a cleaned message has content. -/
theorem getLast?_cleanedLines (raw : Text) : (cleanedLines raw).getLast? ≠ some [] := by
  unfold cleanedLines dropLastEmpty
  split_ifs with hlast
  · obtain ⟨front, hfront⟩ := List.getLast?_eq_some_iff.mp hlast
    have hchain := isChain_squeeze false (contentLines raw)
    -- the line before an empty last one has content, and becomes the last
    rw [hfront, List.isChain_append] at hchain
    rw [hfront, List.dropLast_concat]
    exact fun hempty => hchain.2.2 [] hempty [] rfl rfl rfl
  · exact hlast

/-- No line of a cleaned message ends in a blank. -/
theorem trimEnd_of_mem_cleanedLines {raw l : Text} (h : l ∈ cleanedLines raw) : l.trimEnd = l := by
  obtain ⟨t, -, rfl⟩ := List.mem_map.mp (mem_contentLines_of_mem_cleanedLines h)
  simp only [Text.trimEnd_eq_rdropWhile]
  exact List.rdropWhile_idempotent Text.isBlank t

/-- The first line of a cleaned message has content. -/
theorem head?_cleanedLines (raw : Text) : (cleanedLines raw).head? ≠ some [] := by
  have hhead := head?_squeeze_false (contentLines raw)
  unfold cleanedLines dropLastEmpty
  split_ifs
  · rw [List.head?_dropLast]
    split_ifs
    · exact hhead
    · simp
  · exact hhead

/-- Cleaned lines are lines of the message that is made of them: what could be taken for a line
ending inside them was trimmed away. -/
theorem lines_cleanup (raw : Text) : (cleanup raw).lines = cleanedLines raw := by
  rw [cleanup_eq_joinLines]
  refine Text.lines_joinLines ?_ ?_ (getLast?_cleanedLines raw)
  · intro l hl
    obtain ⟨t, ht, rfl⟩ := List.mem_map.mp (mem_contentLines_of_mem_cleanedLines hl)
    have hline : t ∈ raw.lines :=
      (List.takeWhile_sublist _).subset (List.mem_of_mem_filter ht)
    have hfeed : '\n' ∉ t := Text.newline_not_mem_of_mem_lines hline
    exact fun hmem => hfeed ((List.rdropWhile_prefix Text.isBlank t).subset hmem)
  · intro l hl hreturn
    have htrim := Text.trimEnd_eq_self_iff.mp (trimEnd_of_mem_cleanedLines hl)
    exact absurd (htrim '\r' hreturn) (by decide)

/-! ## The end of a cleaned message -/

theorem Text.getLast?_joinLines {ls : List Text} {l : Text} (h : ls.getLast? = some l)
    (hne : l ≠ []) : (joinLines ls).getLast? = l.getLast? := by
  obtain ⟨front, rfl⟩ := List.getLast?_eq_some_iff.mp h
  rw [joinLines_concat]
  exact List.getLast?_append_of_ne_nil _ hne

/-- A cleaned message does not end in a blank. -/
theorem getLast?_cleanup {raw : Text} {c : Char} (h : (cleanup raw).getLast? = some c) :
    Text.isBlank c = false := by
  rw [cleanup_eq_joinLines] at h
  cases hlast : (cleanedLines raw).getLast? with
  | none =>
    rw [List.getLast?_eq_none_iff.mp hlast] at h
    cases h
  | some l =>
    have hne : l ≠ [] := fun hempty => getLast?_cleanedLines raw (hempty ▸ hlast)
    rw [Text.getLast?_joinLines hlast hne] at h
    have htrim := trimEnd_of_mem_cleanedLines (List.mem_of_getLast? hlast)
    exact Text.trimEnd_eq_self_iff.mp htrim c h

/-- The line feed that ends a recorded message adds no line to a cleaned one with content. -/
theorem lines_line_cleanup {raw : Text} (h : cleanup raw ≠ []) :
    (Text.line (cleanup raw)).lines = (cleanup raw).lines := by
  have hlast := List.getLast?_eq_some_getLast h
  have hblank := getLast?_cleanup hlast
  refine Text.lines_line hlast ?_ ?_
  · intro hreturn
    rw [hreturn] at hblank
    exact absurd hblank (by decide)
  · intro hfeed
    rw [hfeed] at hblank
    exact absurd hblank (by decide)

end CommitGate
