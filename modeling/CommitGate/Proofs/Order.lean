import CommitGate.Proofs.Codes
import CommitGate.Proofs.Highlights

/-!
# The order of a review

A review lists its diagnostics by rule, the diagnostics of a rule by line, and those of a line by
column. The order is strict: nothing is said twice. Each line belongs to one of the rules on blanks:
the second line to its own rule, and every other line to one of the remaining two.
-/

namespace CommitGate

/-- One stretch comes before another, by its line and then by its first column. -/
def Location.Before (l k : Location) : Prop :=
  l.line < k.line ∨ l.line = k.line ∧ l.start < k.start

theorem Location.Before.ne {l k : Location} (h : l.Before k) : l ≠ k := by
  rintro rfl
  unfold Before at h
  omega

/-- One diagnostic points at a place before that of another. -/
def Diagnostic.Before (d d' : Diagnostic) : Prop :=
  ∃ l k, d.location = some l ∧ d'.location = some k ∧ l.Before k

namespace Policy

variable {m : Text} {d d' : Diagnostic}

/-! ## One diagnostic at most -/

theorem length_checkEnding_le (m : Text) : (checkEnding m).length ≤ 1 := by
  unfold checkEnding
  split
  · exact Nat.zero_le 1
  · split
    · split_ifs
      · exact le_rfl
      · exact Nat.zero_le 1
    · exact Nat.zero_le 1

theorem length_checkSecondLine_le (m : Text) : (checkSecondLine m).length ≤ 1 := by
  unfold checkSecondLine
  split
  · split_ifs
    · exact Nat.zero_le 1
    · exact le_rfl
  · exact Nat.zero_le 1

theorem length_checkCasing_le (m : Text) : (checkCasing m).length ≤ 1 := by
  unfold checkCasing
  split
  · exact Nat.zero_le 1
  · split
    · exact le_rfl
    · exact le_rfl
    · exact le_rfl
    · exact Nat.zero_le 1

theorem length_leadingBlanks_le (row : Nat) (line : Text) :
    (leadingBlanks row line).length ≤ 1 := by
  unfold leadingBlanks
  dsimp only
  split_ifs
  · exact le_rfl
  · exact Nat.zero_le 1

theorem length_trailingBlanks_le (row : Nat) (line : Text) :
    (trailingBlanks row line).length ≤ 1 := by
  unfold trailingBlanks
  dsimp only
  split_ifs
  · exact le_rfl
  · exact Nat.zero_le 1

theorem pairwise_of_length_le_one {α : Type} {R : α → α → Prop} {xs : List α}
    (h : xs.length ≤ 1) : xs.Pairwise R := by
  match xs with
  | [] => exact List.Pairwise.nil
  | [x] => exact List.pairwise_singleton R x
  | _ :: _ :: _ => simp at h

/-! ## The order within a rule -/

theorem pairwise_zipIdx (lines : List Text) : lines.zipIdx.Pairwise fun x y => x.2 < y.2 := by
  apply List.pairwise_map.mp
  rw [List.zipIdx_map_snd]
  exact List.pairwise_lt_range' 1

/-- Diagnostics that are given line by line are in order if those of each line are. -/
theorem pairwise_byLine (lines : List Text) {f : Text × Nat → List Diagnostic}
    (hplace : ∀ line row, ∀ d ∈ f (line, row), ∃ l, d.location = some l ∧ l.line = row)
    (hline : ∀ line row, (f (line, row)).Pairwise Diagnostic.Before) :
    (lines.zipIdx.flatMap f).Pairwise Diagnostic.Before := by
  rw [List.pairwise_flatMap]
  constructor
  · rintro ⟨line, row⟩ -
    exact hline line row
  · apply (pairwise_zipIdx lines).imp
    rintro ⟨line, row⟩ ⟨line', row'⟩ hrow d hd d' hd'
    obtain ⟨l, hl, hlrow⟩ := hplace line row d hd
    obtain ⟨k, hk, hkrow⟩ := hplace line' row' d' hd'
    refine ⟨l, k, hl, hk, Or.inl ?_⟩
    rw [hlrow, hkrow]
    exact hrow

/-- The same for rules that give at most one diagnostic for a line. -/
theorem pairwise_oncePerLine (lines : List Text) (p : Nat → Text → Prop)
    [∀ row line, Decidable (p row line)] (f : Nat → Text → Diagnostic)
    (hplace : ∀ row line, ∃ l, (f row line).location = some l ∧ l.line = row) :
    (lines.zipIdx.filterMap fun (line, row) => if p row line then some (f row line) else none).Pairwise
      Diagnostic.Before := by
  rw [List.filterMap_eq_flatMap_toList]
  apply pairwise_byLine
  · intro line row d hd
    dsimp only at hd
    split_ifs at hd
    · rw [Option.toList_some, List.mem_singleton] at hd
      rw [hd]
      exact hplace row line
    · cases hd
  · intro line row
    dsimp only
    split_ifs
    · exact List.pairwise_singleton _ _
    · exact List.Pairwise.nil

theorem pairwise_checkLineLength (m : Text) : (checkLineLength m).Pairwise Diagnostic.Before :=
  pairwise_oncePerLine m.lines (fun _ line => lineLimit < line.length)
    (fun row line => lineTooLong row line.length) fun _ _ => ⟨_, rfl, rfl⟩

theorem pairwise_checkBlankLines (m : Text) : (checkBlankLines m).Pairwise Diagnostic.Before :=
  pairwise_oncePerLine m.lines (fun row line => row ≠ secondRow ∧ Text.isAllBlank line = true)
    blankLine fun _ _ => ⟨_, rfl, rfl⟩

/-- The blanks that a line starts with come before those that it ends with: there is content in
between. -/
theorem pairwise_margins (row : Nat) {line : Text} (hne : line ≠ []) (h : line.isAllBlank = false) :
    (leadingBlanks row line ++ trailingBlanks row line).Pairwise Diagnostic.Before := by
  rw [List.pairwise_append]
  refine ⟨pairwise_of_length_le_one (length_leadingBlanks_le row line),
    pairwise_of_length_le_one (length_trailingBlanks_le row line), ?_⟩
  intro d hd d' hd'
  obtain ⟨-, rfl⟩ := mem_leadingBlanks_iff.mp hd
  obtain ⟨-, rfl⟩ := mem_trailingBlanks_iff.mp hd'
  exact ⟨_, _, rfl, rfl, Or.inr ⟨rfl, Text.length_trimEnd_pos hne h⟩⟩

theorem pairwise_checkMargins (m : Text) : (checkMargins m).Pairwise Diagnostic.Before := by
  apply pairwise_byLine
  · intro line row d hd
    dsimp only at hd
    rw [List.mem_ite_nil_left, List.mem_append] at hd
    rcases hd.2 with hd | hd
    · rw [(mem_leadingBlanks_iff.mp hd).2]
      exact ⟨_, rfl, rfl⟩
    · rw [(mem_trailingBlanks_iff.mp hd).2]
      exact ⟨_, rfl, rfl⟩
  · intro line row
    dsimp only
    split_ifs with hskip
    · exact List.Pairwise.nil
    · push Not at hskip
      have hcontent : line.isAllBlank = false := by simpa using hskip.2.2
      exact pairwise_margins row hskip.2.1 hcontent

theorem Rule.pairwise_check (rule : Rule) (m : Text) :
    (rule.check m).Pairwise Diagnostic.Before := by
  cases rule with
  | lineLength => exact pairwise_checkLineLength m
  | ending => exact pairwise_of_length_le_one (length_checkEnding_le m)
  | secondLine => exact pairwise_of_length_le_one (length_checkSecondLine_le m)
  | casing => exact pairwise_of_length_le_one (length_checkCasing_le m)
  | margins => exact pairwise_checkMargins m
  | blankLines => exact pairwise_checkBlankLines m

/-! ## The order of the rules -/

/-- The position of a rule among the rules. -/
def Rule.position (rule : Rule) : Nat := Rule.all.idxOf rule

theorem Rule.pairwise_all : Rule.all.Pairwise fun rule rule' => rule.position < rule'.position := by
  decide

/-- A diagnostic together with the rule that gives it. -/
structure Finding where
  /-- The rule. -/
  rule : Rule
  /-- What the rule found. -/
  diagnostic : Diagnostic

/-- What the rules find in a message, in the order of the rules. -/
def findings (m : Text) : List Finding :=
  Rule.all.flatMap fun rule => (rule.check m).map (Finding.mk rule)

/-- One finding comes before another, by its rule and then by its place. -/
def Finding.Before (f g : Finding) : Prop :=
  f.rule.position < g.rule.position ∨
    f.rule.position = g.rule.position ∧ f.diagnostic.Before g.diagnostic

theorem map_diagnostic_findings (m : Text) : (findings m).map Finding.diagnostic = review m := by
  unfold findings review
  rw [List.map_flatMap]
  apply List.flatMap_congr
  intro rule _
  rw [List.map_map]
  exact List.map_id' _

theorem mem_findings_iff {f : Finding} : f ∈ findings m ↔ f.diagnostic ∈ f.rule.check m := by
  unfold findings
  rw [List.mem_flatMap]
  constructor
  · rintro ⟨rule, -, hf⟩
    obtain ⟨d, hd, rfl⟩ := List.mem_map.mp hf
    exact hd
  · intro h
    exact ⟨f.rule, f.rule.mem_all, List.mem_map.mpr ⟨_, h, rfl⟩⟩

theorem pairwise_findings (m : Text) : (findings m).Pairwise Finding.Before := by
  unfold findings
  rw [List.pairwise_flatMap]
  constructor
  · intro rule _
    rw [List.pairwise_map]
    exact (rule.pairwise_check m).imp fun h => Or.inr ⟨rfl, h⟩
  · apply Rule.pairwise_all.imp
    intro rule rule' hrules f hf g hg
    obtain ⟨d, -, rfl⟩ := List.mem_map.mp hf
    obtain ⟨d', -, rfl⟩ := List.mem_map.mp hg
    exact Or.inl hrules

/-- No two diagnostics of a review have both their code and their location in common. -/
theorem pairwise_code_location (m : Text) :
    (review m).Pairwise fun d d' => ¬ (d.code = d'.code ∧ d.location = d'.location) := by
  rw [← map_diagnostic_findings, List.pairwise_map]
  apply (pairwise_findings m).imp_of_mem
  intro f g hf hg hbefore ⟨hcode, hlocation⟩
  have hrule : f.rule = g.rule := by
    rw [Rule.code_of_mem_check (mem_findings_iff.mp hf),
      Rule.code_of_mem_check (mem_findings_iff.mp hg)] at hcode
    exact Rule.code_injective (Option.some.inj hcode)
  rcases hbefore with hposition | ⟨-, l, k, hl, hk, hplace⟩
  · rw [hrule] at hposition
    exact lt_irrefl _ hposition
  · rw [hl, hk] at hlocation
    exact hplace.ne (Option.some.inj hlocation)

/-! ## The owners of a line -/

theorem line_of_mem_checkMargins (h : d ∈ checkMargins m) :
    ∃ l line, d.location = some l ∧ l.line ≠ 1 ∧ m.lines[l.line]? = some line ∧
      line.isAllBlank = false := by
  obtain ⟨row, line, hline, hrow, -, hcontent, hd⟩ := mem_checkMargins_iff.mp h
  rcases hd with hd | hd
  · rw [(mem_leadingBlanks_iff.mp hd).2]
    exact ⟨_, line, rfl, hrow, hline, hcontent⟩
  · rw [(mem_trailingBlanks_iff.mp hd).2]
    exact ⟨_, line, rfl, hrow, hline, hcontent⟩

theorem line_of_mem_checkBlankLines (h : d ∈ checkBlankLines m) :
    ∃ l line, d.location = some l ∧ l.line ≠ 1 ∧ m.lines[l.line]? = some line ∧
      line.isAllBlank = true := by
  obtain ⟨row, line, hline, ⟨hrow, hblank⟩, rfl⟩ := mem_checkBlankLines_iff.mp h
  exact ⟨_, line, rfl, hrow, hline, hblank⟩

/-- The second line belongs to neither of the two rules. -/
theorem line_ne_one_of_mem (h : d ∈ checkMargins m ∨ d ∈ checkBlankLines m) :
    d.location.map Location.line ≠ some 1 := by
  rcases h with h | h
  · obtain ⟨l, line, hl, hrow, -⟩ := line_of_mem_checkMargins h
    rw [hl]
    exact fun hline => hrow (Option.some.inj hline)
  · obtain ⟨l, line, hl, hrow, -⟩ := line_of_mem_checkBlankLines h
    rw [hl]
    exact fun hline => hrow (Option.some.inj hline)

/-- No line belongs to both rules. -/
theorem line_ne_of_mem (hd : d ∈ checkBlankLines m) (hd' : d' ∈ checkMargins m) :
    d.location.map Location.line ≠ d'.location.map Location.line := by
  obtain ⟨l, line, hl, -, hline, hblank⟩ := line_of_mem_checkBlankLines hd
  obtain ⟨k, line', hk, -, hline', hcontent⟩ := line_of_mem_checkMargins hd'
  rw [hl, hk]
  intro hsame
  rw [show l.line = k.line from Option.some.inj hsame, hline'] at hline
  cases hline
  rw [hcontent] at hblank
  cases hblank

/-- A review is strictly in order: by the rule that gives a diagnostic, then by line, then by first
column. Hence no two diagnostics share their code and location. The two rules on blanks leave the
second line alone and never both find something on a line, and the rules on the subject and on the
second line find one thing at most. -/
theorem review_strictly_ordered (m : Text) :
    ((findings m).map Finding.diagnostic = review m ∧ (findings m).Pairwise Finding.Before ∧
      ∀ f ∈ findings m, f.diagnostic ∈ f.rule.check m ∧ f.diagnostic.location.isSome = true) ∧
    (review m).Pairwise (fun d d' => ¬ (d.code = d'.code ∧ d.location = d'.location)) ∧
    (∀ d ∈ review m, d.code = some Rule.margins.code ∨ d.code = some Rule.blankLines.code →
      d.location.map Location.line ≠ some 1) ∧
    (∀ d ∈ review m, ∀ d' ∈ review m, d.code = some Rule.blankLines.code →
      d'.code = some Rule.margins.code →
      d.location.map Location.line ≠ d'.location.map Location.line) ∧
    (Rule.ending.check m).length ≤ 1 ∧ (Rule.secondLine.check m).length ≤ 1 ∧
      (Rule.casing.check m).length ≤ 1 := by
  refine ⟨⟨map_diagnostic_findings m, pairwise_findings m, ?_⟩, pairwise_code_location m, ?_, ?_,
    length_checkEnding_le m, length_checkSecondLine_le m, length_checkCasing_le m⟩
  · intro f hf
    have hcheck := mem_findings_iff.mp hf
    obtain ⟨l, line, hplaced⟩ := placed_of_mem_review (Rule.mem_check_iff.mp hcheck).1
    exact ⟨hcheck, by rw [hplaced.location]; rfl⟩
  · intro d hd hcode
    have hcheck : d ∈ Rule.margins.check m ∨ d ∈ Rule.blankLines.check m := by
      rcases hcode with hcode | hcode
      · exact Or.inl (Rule.mem_check_iff.mpr ⟨hd, hcode⟩)
      · exact Or.inr (Rule.mem_check_iff.mpr ⟨hd, hcode⟩)
    exact line_ne_one_of_mem hcheck
  · intro d hd d' hd' hcode hcode'
    exact line_ne_of_mem (Rule.mem_check_iff.mpr ⟨hd, hcode⟩) (Rule.mem_check_iff.mpr ⟨hd', hcode'⟩)

/-- A line with blanks on both sides and a line of blanks. -/
theorem review_strictly_ordered_read :
    let m := "Add a lexer\n\n read \n \n".toList
    let padded := untrimmed 2 0 1 "leading whitespace".toList "Remove this leading whitespace".toList
    padded ∈ review m ∧ blankLine 3 [' '] ∈ review m ∧
      padded.location.map Location.line ≠ some 1 ∧
      (blankLine 3 [' ']).location.map Location.line ≠ padded.location.map Location.line := by
  intro m padded
  have hpadded : padded ∈ review m := by decide +kernel
  have hblank : blankLine 3 [' '] ∈ review m := by decide +kernel
  obtain ⟨-, -, hrow, hline, -⟩ := review_strictly_ordered m
  exact ⟨hpadded, hblank, hrow _ hpadded (Or.inl rfl), hline _ hblank _ hpadded rfl rfl⟩

end Policy

end CommitGate
