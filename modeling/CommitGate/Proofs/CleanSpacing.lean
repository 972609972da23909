import CommitGate.Proofs.Cleanup
import CommitGate.Proofs.Codes

/-!
# Blanks in a cleaned message

Cleaning takes away all the blanks that a rule objects to, except those before the content of a
line. No line of a cleaned message ends in a blank; hence none consists of blanks, and what the
rules on blanks still find is the indentation of lines.
-/

namespace CommitGate

namespace Text

variable {t : Text}

theorem length_sub_length_trimStart (t : Text) :
    t.length - t.trimStart.length = (t.takeWhile isBlank).length := by
  have hparts : (t.takeWhile isBlank).length + (t.dropWhile isBlank).length = t.length := by
    rw [← List.length_append, List.takeWhile_append_dropWhile]
  rw [trimStart]
  omega

theorem length_takeWhile_isBlank_pos_iff :
    0 < (t.takeWhile isBlank).length ↔ t.head?.any isBlank = true := by
  cases t with
  | nil => simp
  | cons c rest =>
    by_cases hc : isBlank c = true
    · simp [hc]
    · simp [hc]

/-- A text that does not end in a blank does not consist of blanks. -/
theorem isAllBlank_eq_false_of_trimEnd (h : t.trimEnd = t) : t.isAllBlank = false := by
  by_contra hblank
  obtain ⟨hne, hall⟩ := isAllBlank_iff.mp (Bool.not_eq_false _ ▸ hblank)
  have hlast := List.getLast?_eq_some_getLast hne
  have hno := trimEnd_eq_self_iff.mp h _ hlast
  rw [hall _ (List.getLast_mem hne)] at hno
  cases hno

end Text

namespace Policy

variable {m : Text} {d : Diagnostic}

/-! ## Lines that do not end in blanks -/

/-- The diagnostic for the indentation of a line. -/
def indented (row : Nat) (line : Text) : Diagnostic :=
  untrimmed row 0 (line.takeWhile Text.isBlank).length "leading whitespace".toList
    "Remove this leading whitespace".toList

theorem leadingBlanks_eq (row : Nat) (line : Text) :
    leadingBlanks row line = if line.head?.any Text.isBlank then [indented row line] else [] := by
  unfold leadingBlanks indented
  dsimp only
  rw [Text.length_sub_length_trimStart]
  exact if_congr Text.length_takeWhile_isBlank_pos_iff rfl rfl

theorem trailingBlanks_eq_nil {line : Text} (h : line.trimEnd = line) (row : Nat) :
    trailingBlanks row line = [] := by
  unfold trailingBlanks
  dsimp only
  rw [h, if_neg (lt_irrefl _)]

section NoTrailing

variable (h : ∀ line ∈ m.lines, line.trimEnd = line)
include h

theorem checkBlankLines_eq_nil : checkBlankLines m = [] := by
  rw [List.eq_nil_iff_forall_not_mem]
  intro d hd
  obtain ⟨row, line, hline, ⟨-, hblank⟩, -⟩ := mem_checkBlankLines_iff.mp hd
  rw [Text.isAllBlank_eq_false_of_trimEnd (h line (List.mem_of_getElem? hline))] at hblank
  cases hblank

/-- Each indented line but the second one has a diagnostic, and there are no others. -/
theorem checkMargins_eq_indented :
    checkMargins m = m.lines.zipIdx.filterMap fun (line, row) =>
      if row ≠ secondRow ∧ line.head?.any Text.isBlank then some (indented row line) else none := by
  rw [List.filterMap_eq_flatMap_toList]
  apply List.flatMap_congr
  rintro ⟨line, row⟩ hmem
  have hline := h line (List.fst_mem_of_mem_zipIdx hmem)
  dsimp only
  rw [leadingBlanks_eq, trailingBlanks_eq_nil hline, List.append_nil,
    Text.isAllBlank_eq_false_of_trimEnd hline]
  by_cases hrow : row = secondRow
  · simp [hrow]
  · cases line with
    | nil => simp
    | cons c rest =>
      by_cases hc : Text.isBlank c = true
      · simp [hrow, hc]
      · simp [hrow, hc]

theorem hint_of_mem_checkSecondLine (hd : d ∈ checkSecondLine m) :
    d.hint = some "non-empty second line".toList := by
  obtain ⟨subject, line, -, hline, -, rfl⟩ := mem_checkSecondLine_iff.mp hd
  have hblank := Text.isAllBlank_eq_false_of_trimEnd (h line (List.mem_of_getElem? hline))
  unfold secondLineNotEmpty
  rw [hblank]
  rfl

end NoTrailing

end Policy

/-! ## The review of a cleaned message -/

theorem trimEnd_of_mem_lines_cleanup (raw : Text) :
    ∀ line ∈ (cleanup raw).lines, line.trimEnd = line := by
  intro line hline
  rw [lines_cleanup] at hline
  exact trimEnd_of_mem_cleanedLines hline

/-- A cleaned message that is not empty starts with a line that has content. -/
theorem exists_subject_cleanup {raw : Text} (h : cleanup raw ≠ []) :
    ∃ subject, (cleanup raw).subject? = some subject ∧ ∃ c ∈ subject, Text.isBlank c = false := by
  have hlines : (cleanup raw).lines ≠ [] := by
    intro hnone
    rw [lines_cleanup] at hnone
    rw [cleanup_eq_joinLines, hnone] at h
    exact h rfl
  obtain ⟨subject, body, hsplit⟩ := List.exists_cons_of_ne_nil hlines
  have hne : subject ≠ [] := by
    rintro rfl
    have hhead := head?_cleanedLines raw
    rw [← lines_cleanup, hsplit] at hhead
    exact hhead rfl
  have hmem : subject ∈ (cleanup raw).lines := hsplit ▸ List.mem_cons_self
  have hlast := Text.trimEnd_eq_self_iff.mp (trimEnd_of_mem_lines_cleanup raw subject hmem) _
    (List.getLast?_eq_some_getLast hne)
  exact ⟨subject, by rw [Text.subject?, hsplit]; rfl, _, List.getLast_mem hne, hlast⟩

/-- The review of a cleaned message finds no line of blanks, no blanks at the end of a line and no
second line of blanks. Under the code for blanks around content it has one diagnostic for each line
that starts with a blank, except the second line. If the message is not empty, its first line has
content. -/
theorem review_cleanup_leaves_indentation (raw : Text) :
    (∀ d ∈ Policy.review (cleanup raw),
      d.code ≠ some Policy.Rule.blankLines.code ∧
      ¬ (d.code = some Policy.Rule.margins.code ∧ d.hint = some "trailing whitespace".toList) ∧
      ¬ (d.code = some Policy.Rule.secondLine.code ∧
        d.hint = some "non-empty second line (these characters are whitespace)".toList)) ∧
    (Policy.review (cleanup raw)).filter (·.code = some Policy.Rule.margins.code) =
      (cleanup raw).lines.zipIdx.filterMap (fun (line, row) =>
        if row ≠ 1 ∧ line.head?.any Text.isBlank then some (Policy.indented row line) else none) ∧
    (cleanup raw ≠ [] →
      ∃ subject, (cleanup raw).subject? = some subject ∧ ∃ c ∈ subject, Text.isBlank c = false) := by
  have htrim := trimEnd_of_mem_lines_cleanup raw
  have hmargins := Policy.checkMargins_eq_indented htrim
  refine ⟨fun d hd => ⟨?_, ?_, ?_⟩, ?_, exists_subject_cleanup⟩
  · intro hcode
    have hmem : d ∈ Policy.checkBlankLines (cleanup raw) := Policy.Rule.mem_check_iff.mpr ⟨hd, hcode⟩
    rw [Policy.checkBlankLines_eq_nil htrim] at hmem
    cases hmem
  · rintro ⟨hcode, hhint⟩
    have hmem : d ∈ Policy.checkMargins (cleanup raw) := Policy.Rule.mem_check_iff.mpr ⟨hd, hcode⟩
    rw [hmargins, Policy.mem_filterMap_zipIdx_iff
      (fun row (line : Text) => row ≠ Policy.secondRow ∧ line.head?.any Text.isBlank = true)
      Policy.indented] at hmem
    obtain ⟨row, line, -, -, rfl⟩ := hmem
    have hleading : some "leading whitespace".toList ≠ some "trailing whitespace".toList := by decide
    exact hleading hhint
  · rintro ⟨hcode, hhint⟩
    have hmem : d ∈ Policy.checkSecondLine (cleanup raw) := Policy.Rule.mem_check_iff.mpr ⟨hd, hcode⟩
    rw [Policy.hint_of_mem_checkSecondLine htrim hmem] at hhint
    exact absurd hhint (by decide)
  · rw [Policy.filter_code_review]
    exact hmargins

/-- An edited message with blanks at both ends of its lines. -/
def Text.editedLexer : Text := " Add a lexer \t\n \n\n  It reads.  \n# That is all.\n".toList

/-- In `editedLexer` the indentation of the subject and of the body is found once the message is
clean. -/
theorem review_cleanup_editedLexer :
    cleanup Text.editedLexer ≠ [] ∧
    (∃ d ∈ Policy.review (cleanup Text.editedLexer), d.code = some Policy.Rule.margins.code ∧
      d.hint ≠ some "trailing whitespace".toList) ∧
    (Policy.review (cleanup Text.editedLexer)).filter (·.code = some Policy.Rule.margins.code) =
      [Policy.indented 0 " Add a lexer".toList, Policy.indented 2 "  It reads.".toList] ∧
    ∃ subject, (cleanup Text.editedLexer).subject? = some subject ∧
      ∃ c ∈ subject, Text.isBlank c = false := by
  have hne : cleanup Text.editedLexer ≠ [] := by decide +kernel
  have hlines : (cleanup Text.editedLexer).lines =
      [" Add a lexer".toList, [], "  It reads.".toList] := by decide +kernel
  obtain ⟨hnone, hmargins, hsubject⟩ := review_cleanup_leaves_indentation Text.editedLexer
  rw [hlines] at hmargins
  have hfirst : Policy.indented 0 " Add a lexer".toList ∈ Policy.review (cleanup Text.editedLexer) := by
    apply List.mem_of_mem_filter
    rw [hmargins]
    exact List.mem_cons_self
  have hcode : (Policy.indented 0 " Add a lexer".toList).code = some Policy.Rule.margins.code := rfl
  refine ⟨hne, ⟨_, hfirst, hcode, fun hhint => ?_⟩, hmargins, hsubject hne⟩
  exact (hnone _ hfirst).2.1 ⟨hcode, hhint⟩

end CommitGate
