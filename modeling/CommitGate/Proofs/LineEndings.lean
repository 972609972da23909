import CommitGate.Cleanup
import CommitGate.Proofs.Lines
import CommitGate.Proofs.Reporter
import CommitGate.Proofs.Rules

/-!
# Line endings

A text that ends its lines with a carriage return and a line feed has the same lines as the one that
ends them with a line feed alone, and whatever is said about a message is said about its lines. A
line feed more at the end of a message adds an empty line at most, and no rule objects to that.
-/

namespace CommitGate

namespace Text

variable {t : Text}

/-- A text with a carriage return before each of its line feeds. -/
def withReturns (t : Text) : Text := t.flatMap fun c => if c = '\n' then ['\r', '\n'] else [c]

theorem withReturns_append (s t : Text) :
    (s ++ t).withReturns = s.withReturns ++ t.withReturns := List.flatMap_append

theorem withReturns_newline (t : Text) :
    withReturns ('\n' :: t) = '\r' :: '\n' :: t.withReturns := rfl

theorem withReturns_of_not_mem (h : '\n' ∉ t) : t.withReturns = t := by
  induction t with
  | nil => rfl
  | cons c rest ih =>
    rw [List.mem_cons, not_or] at h
    have hkept := ih h.2
    unfold withReturns at hkept ⊢
    rw [List.flatMap_cons, if_neg (Ne.symm h.1), hkept, List.singleton_append]

theorem dropReturn_append_return (t : Text) : dropReturn (t ++ ['\r']) = t := by
  simp [dropReturn]

theorem dropReturn_of_not_mem (h : '\r' ∉ t) : dropReturn t = t :=
  dropReturn_eq_self fun hlast => h (List.mem_of_getLast? hlast)

/-- The carriage returns before line feeds are no part of the lines. -/
theorem lines_withReturns (h : '\r' ∉ t) : t.withReturns.lines = t.lines := by
  induction t using line_induction with
  | last l hl => rw [withReturns_of_not_mem hl]
  | line l rest hl ih =>
    rw [List.mem_append, List.mem_cons, not_or, not_or] at h
    obtain ⟨hreturn, -, hrest⟩ := h
    have hended : '\n' ∉ l ++ ['\r'] := by simp [hl]
    calc (l ++ '\n' :: rest).withReturns.lines
        = ((l ++ ['\r']) ++ '\n' :: rest.withReturns).lines := by
          rw [withReturns_append, withReturns_of_not_mem hl, withReturns_newline]
          simp
      _ = l :: rest.withReturns.lines := by
          rw [lines_append_newline hended, dropReturn_append_return]
      _ = l :: rest.lines := by rw [ih hrest]
      _ = (l ++ '\n' :: rest).lines := by
          rw [lines_append_newline hl, dropReturn_of_not_mem hreturn]

/-! ## A line feed at the end -/

theorem lines_line_line (t : Text) : (line (line t)).lines = (line t).lines ++ [[]] := by
  induction t using line_induction with
  | last l hl =>
    have htwo : line (line l) = l ++ '\n' :: ['\n'] := by simp [line]
    have hone : lines ['\n'] = [[]] := by decide
    rw [htwo, line, lines_append_newline hl, lines_append_newline hl, hone]
    rfl
  | line l rest hl ih =>
    have hcons : ∀ s, line (l ++ '\n' :: s) = l ++ '\n' :: line s := fun s => by simp [line]
    rw [hcons, hcons, lines_append_newline hl, lines_append_newline hl, ih]
    rfl

/-- A line feed after anything but a carriage return adds an empty line at most. -/
theorem lines_line_of_no_return (h : t.getLast? ≠ some '\r') :
    (line t).lines = t.lines ∨ (line t).lines = t.lines ++ [[]] := by
  cases hlast : t.getLast? with
  | none =>
    rw [List.getLast?_eq_none_iff.mp hlast]
    exact Or.inr (by decide)
  | some c =>
    have hreturn : c ≠ '\r' := by
      rintro rfl
      exact h hlast
    by_cases hfeed : c = '\n'
    · subst hfeed
      obtain ⟨s, rfl⟩ := List.getLast?_eq_some_iff.mp hlast
      exact Or.inr (lines_line_line s)
    · exact Or.inl (lines_line hlast hreturn hfeed)

end Text

theorem cleanup_congr {raw raw' : Text} (h : raw.lines = raw'.lines) :
    cleanup raw = cleanup raw' := by
  unfold cleanup contentLines
  rw [h]

/-! ## An empty line at the end -/

namespace Policy

section EmptyLine

variable {m m' : Text} (h : m'.lines = m.lines ++ [[]])
include h

theorem checkLineLength_of_emptyLine : checkLineLength m' = checkLineLength m := by
  unfold checkLineLength
  rw [h, List.zipIdx_append, List.filterMap_append]
  simp

/-- If the empty line is the first one, it is a subject where there was none. -/
theorem subject?_of_emptyLine : m'.subject? = m.subject? ∨
    m'.subject? = some [] ∧ m.subject? = none := by
  unfold Text.subject?
  rw [h]
  cases m.lines with
  | nil => exact Or.inr ⟨rfl, rfl⟩
  | cons subject body => exact Or.inl rfl

theorem checkEnding_of_emptyLine : checkEnding m' = checkEnding m := by
  rcases subject?_of_emptyLine h with hsame | ⟨hempty, hnone⟩
  · exact checkEnding_congr hsame
  · simp [checkEnding, hempty, hnone]

theorem checkSecondLine_of_emptyLine : checkSecondLine m' = checkSecondLine m := by
  unfold checkSecondLine
  rw [h]
  match m.lines with
  | [] => rfl
  | [subject] => rfl
  | subject :: line :: body => rfl

theorem checkCasing_of_emptyLine : checkCasing m' = checkCasing m := by
  rcases subject?_of_emptyLine h with hsame | ⟨hempty, hnone⟩
  · exact checkCasing_congr hsame
  · simp [checkCasing, casingOf, hempty, hnone]

theorem checkMargins_of_emptyLine : checkMargins m' = checkMargins m := by
  unfold checkMargins
  rw [h, List.zipIdx_append, List.flatMap_append]
  simp

theorem checkBlankLines_of_emptyLine : checkBlankLines m' = checkBlankLines m := by
  unfold checkBlankLines
  rw [h, List.zipIdx_append, List.filterMap_append]
  simp [Text.isAllBlank]

/-- No rule objects to an empty line at the end of a message. -/
theorem Rule.check_of_emptyLine (rule : Rule) : rule.check m' = rule.check m := by
  cases rule with
  | lineLength => exact checkLineLength_of_emptyLine h
  | ending => exact checkEnding_of_emptyLine h
  | secondLine => exact checkSecondLine_of_emptyLine h
  | casing => exact checkCasing_of_emptyLine h
  | margins => exact checkMargins_of_emptyLine h
  | blankLines => exact checkBlankLines_of_emptyLine h

end EmptyLine

/-- A line feed at the end changes nothing for a rule, unless it turns a carriage return into a part
of a line ending. -/
theorem Rule.check_line {m : Text} (h : m.getLast? ≠ some '\r') (rule : Rule) :
    rule.check (Text.line m) = rule.check m := by
  rcases Text.lines_line_of_no_return h with hsame | hmore
  · exact rule.check_congr hsame
  · exact rule.check_of_emptyLine hmore

theorem review_line {m : Text} (h : m.getLast? ≠ some '\r') : review (Text.line m) = review m := by
  unfold review
  simp only [fun rule : Rule => rule.check_line h]

end Policy

/-! ## What does not depend on line endings -/

/-- Of a message without carriage returns and the same message with a carriage return before each
line feed, the review, the subject, the lines, the cleaned message, the line that announces a commit
and the reports are the same. The review is the same with a line feed more at the end, too. -/
theorem line_endings_irrelevant :
    (∀ m : Text, '\r' ∉ m →
      Policy.review m.withReturns = Policy.review m ∧
      m.withReturns.subject? = m.subject? ∧
      m.withReturns.lines = m.lines ∧
      cleanup m.withReturns = cleanup m ∧
      (∀ color hash,
        paint color (checkingPieces hash m.withReturns) = paint color (checkingPieces hash m)) ∧
      ∀ commit ds,
        (∀ color, (Report.mk commit m.withReturns ds).text color =
          (Report.mk commit m ds).text color) ∧
        (Report.mk commit m.withReturns ds).document = (Report.mk commit m ds).document) ∧
    ∀ m : Text, m.getLast? ≠ some '\r' → Policy.review (Text.line m) = Policy.review m := by
  refine ⟨fun m hm => ?_, fun m hm => Policy.review_line hm⟩
  have hlines := Text.lines_withReturns hm
  have hsubject := Policy.subject?_congr hlines
  refine ⟨Policy.review_congr hlines, hsubject, hlines, cleanup_congr hlines, ?_, ?_⟩
  · intro color hash
    simp only [checkingPieces, hsubject]
  · intro commit ds
    exact ⟨fun color => Report.text_congr hlines color commit ds,
      Report.document_congr hsubject commit ds⟩

/-- A message with violations on three lines, with either line ending and with a line feed more. -/
theorem review_withReturns_wip :
    '\r' ∉ "wip.\n more\n \n".toList ∧ "wip.\n more\n \n".toList.getLast? ≠ some '\r' ∧
      Policy.review (Text.withReturns "wip.\n more\n \n".toList) =
        Policy.review "wip.\n more\n \n".toList ∧
      Policy.review (Text.line "wip.\n more\n \n".toList) =
        Policy.review "wip.\n more\n \n".toList :=
  ⟨by decide, by decide, (line_endings_irrelevant.1 _ (by decide)).1,
    line_endings_irrelevant.2 _ (by decide)⟩

end CommitGate
