import CommitGate.Policy.Review
import CommitGate.Proofs.Blank

/-!
# The diagnostics of each rule

For every rule, the lines on which it finds something and the diagnostics that it gives for them.
Other facts about rules are read off these, so that the rules themselves are opened here only.
-/

namespace CommitGate.Policy

variable {m : Text} {d : Diagnostic}

theorem subject?_eq (m : Text) : m.subject? = m.lines[0]? := List.head?_eq_getElem?

/-! ## Whole lines -/

/-- What is found by looking at each element with its index. -/
theorem mem_filterMap_zipIdx_iff {α β : Type} {xs : List α} {y : β} (p : Nat → α → Prop)
    [∀ i x, Decidable (p i x)] (f : Nat → α → β) :
    (y ∈ xs.zipIdx.filterMap fun (x, i) => if p i x then some (f i x) else none) ↔
      ∃ i x, xs[i]? = some x ∧ p i x ∧ y = f i x := by
  rw [List.mem_filterMap]
  constructor
  · rintro ⟨⟨x, i⟩, hmem, hy⟩
    dsimp only at hy
    split_ifs at hy with hp
    cases hy
    exact ⟨i, x, List.mk_mem_zipIdx_iff_getElem?.mp hmem, hp, rfl⟩
  · rintro ⟨i, x, hx, hp, rfl⟩
    exact ⟨(x, i), List.mk_mem_zipIdx_iff_getElem?.mpr hx, if_pos hp⟩

theorem mem_checkLineLength_iff :
    d ∈ checkLineLength m ↔ ∃ row line, m.lines[row]? = some line ∧ lineLimit < line.length ∧
      d = lineTooLong row line.length :=
  mem_filterMap_zipIdx_iff (fun _ (line : Text) => lineLimit < line.length)
    fun row (line : Text) => lineTooLong row line.length

theorem mem_checkBlankLines_iff :
    d ∈ checkBlankLines m ↔ ∃ row line, m.lines[row]? = some line ∧
      (row ≠ secondRow ∧ Text.isAllBlank line = true) ∧ d = blankLine row line :=
  mem_filterMap_zipIdx_iff (fun row line => row ≠ secondRow ∧ Text.isAllBlank line = true) blankLine

/-! ## Margins -/

theorem mem_leadingBlanks_iff {row : Nat} {line : Text} :
    d ∈ leadingBlanks row line ↔ line.trimStart.length < line.length ∧
      d = untrimmed row 0 (line.length - line.trimStart.length) "leading whitespace".toList
        "Remove this leading whitespace".toList := by
  unfold leadingBlanks
  dsimp only
  rw [List.mem_ite_nil_right, List.mem_singleton, Nat.sub_pos_iff_lt]

theorem mem_trailingBlanks_iff {row : Nat} {line : Text} :
    d ∈ trailingBlanks row line ↔ line.trimEnd.length < line.length ∧
      d = untrimmed row line.trimEnd.length line.length "trailing whitespace".toList
        "Remove this trailing whitespace".toList := by
  unfold trailingBlanks
  dsimp only
  rw [List.mem_ite_nil_right, List.mem_singleton]

theorem mem_checkMargins_iff :
    d ∈ checkMargins m ↔ ∃ row line, m.lines[row]? = some line ∧ row ≠ secondRow ∧ line ≠ [] ∧
      Text.isAllBlank line = false ∧ (d ∈ leadingBlanks row line ∨ d ∈ trailingBlanks row line) := by
  unfold checkMargins
  rw [List.mem_flatMap]
  constructor
  · rintro ⟨⟨line, row⟩, hmem, hd⟩
    rw [List.mk_mem_zipIdx_iff_getElem?] at hmem
    dsimp only at hd
    rw [List.mem_ite_nil_left, List.mem_append] at hd
    obtain ⟨hskip, hd⟩ := hd
    push Not at hskip
    exact ⟨row, line, hmem, hskip.1, hskip.2.1, by simpa using hskip.2.2, hd⟩
  · rintro ⟨row, line, hline, hrow, hne, hblank, hd⟩
    refine ⟨(line, row), List.mk_mem_zipIdx_iff_getElem?.mpr hline, ?_⟩
    dsimp only
    rw [List.mem_ite_nil_left, List.mem_append]
    exact ⟨by simp [hrow, hne, hblank], hd⟩

/-! ## The first two lines -/

theorem mem_checkSecondLine_iff :
    d ∈ checkSecondLine m ↔ ∃ subject line, m.lines[0]? = some subject ∧
      m.lines[secondRow]? = some line ∧ line ≠ [] ∧ d = secondLineNotEmpty subject line := by
  unfold checkSecondLine secondRow
  split
  next subject line rest hlines =>
    rw [hlines]
    split_ifs with hempty
    · simp [hempty]
    · simp [hempty]
  next hlines =>
    simp only [List.not_mem_nil, false_iff]
    rintro ⟨subject, line, h0, h1, -⟩
    match hl : m.lines with
    | [] => simp [hl] at h0
    | [_] => simp [hl] at h1
    | subject' :: line' :: rest => exact hlines subject' line' rest hl

theorem mem_checkEnding_iff :
    d ∈ checkEnding m ↔ ∃ subject ending, m.lines[0]? = some subject ∧
      subject.getLast? = some ending ∧ ending ∈ endings ∧ d = badEnding subject ending := by
  unfold checkEnding
  rw [subject?_eq]
  cases m.lines[0]? with
  | none => simp
  | some subject =>
    cases hlast : subject.getLast? with
    | none => simp [hlast]
    | some ending =>
      dsimp only
      rw [hlast]
      dsimp only
      split_ifs with hbad
      · simp [hlast, hbad]
      · simp [hlast, hbad]

/-- The diagnostics for a verdict on the case of a subject. -/
theorem mem_checkCasing_iff :
    d ∈ checkCasing m ↔ ∃ subject, m.lines[0]? = some subject ∧
      (casingOf subject = .upper ∧
          d = wrongCase "Subject line must not be in upper-case".toList
            "subject in upper case".toList subject ∨
        casingOf subject = .title ∧
          d = { wrongCase "Subject line must not be in title-case".toList
            "subject in title case".toList subject with note := some titleCaseNote } ∨
        ∃ first rest, casingOf subject = .lowStart first rest ∧ d = lowStart first rest) := by
  unfold checkCasing
  rw [subject?_eq]
  cases m.lines[0]? with
  | none => simp
  | some subject => cases hcase : casingOf subject <;> simp [hcase]

/-- A subject that starts low is its first character and the rest. -/
theorem eq_of_casingOf_eq_lowStart {subject rest : Text} {first : Char}
    (h : casingOf subject = .lowStart first rest) : subject = first :: rest := by
  cases subject with
  | nil => cases h
  | cons c cs =>
    unfold casingOf at h
    dsimp only at h
    split_ifs at h
    cases h
    rfl

/-! ## What rules look at -/

theorem subject?_congr {m m' : Text} (h : m.lines = m'.lines) : m.subject? = m'.subject? :=
  congrArg List.head? h

theorem checkEnding_congr {m m' : Text} (h : m.subject? = m'.subject?) :
    checkEnding m = checkEnding m' := by
  unfold checkEnding
  rw [h]

theorem checkCasing_congr {m m' : Text} (h : m.subject? = m'.subject?) :
    checkCasing m = checkCasing m' := by
  unfold checkCasing
  rw [h]

/-- A rule looks at the lines of a message and at nothing else. -/
theorem Rule.check_congr {m m' : Text} (h : m.lines = m'.lines) (rule : Rule) :
    rule.check m = rule.check m' := by
  cases rule with
  | lineLength =>
    show checkLineLength m = checkLineLength m'
    unfold checkLineLength
    rw [h]
  | ending => exact checkEnding_congr (subject?_congr h)
  | secondLine =>
    show checkSecondLine m = checkSecondLine m'
    unfold checkSecondLine
    rw [h]
  | casing => exact checkCasing_congr (subject?_congr h)
  | margins =>
    show checkMargins m = checkMargins m'
    unfold checkMargins
    rw [h]
  | blankLines =>
    show checkBlankLines m = checkBlankLines m'
    unfold checkBlankLines
    rw [h]

/-! ## The review -/

theorem review_congr {m m' : Text} (h : m.lines = m'.lines) : review m = review m' := by
  unfold review
  simp only [fun rule : Rule => rule.check_congr h]

/-- The review gives the diagnostics of the six rules. -/
theorem mem_review_iff :
    d ∈ review m ↔ d ∈ checkLineLength m ∨ d ∈ checkEnding m ∨ d ∈ checkSecondLine m ∨
      d ∈ checkCasing m ∨ d ∈ checkMargins m ∨ d ∈ checkBlankLines m := by
  simp [review, Rule.all, Rule.check]

end CommitGate.Policy
