import CommitGate.Proofs.Lines
import CommitGate.Proofs.Rules
import Mathlib.Data.List.Infix

/-!
# Adding to the body

Text that is added to a message below its last line leaves the lines of the message where they are.
A rule says of these lines what it said before, and says it before anything else, so that more body
text never makes a violation go away.
-/

namespace CommitGate

/-- What follows a text on a new line comes after the lines of the text. A carriage return at the
end of the text would become part of a line ending. -/
theorem Text.lines_prefix_append_newline {t : Text} (h : t.getLast? ≠ some '\r') (x : Text) :
    t.lines <+: (t ++ '\n' :: x).lines := by
  induction t using line_induction with
  | last l hl =>
    by_cases hempty : l = []
    · subst hempty
      exact List.nil_prefix
    · rw [lines_of_not_mem hl hempty, lines_append_newline hl, dropReturn_eq_self h]
      exact ⟨lines x, rfl⟩
  | line l rest hl ih =>
    have hrest : rest.getLast? ≠ some '\r' := by
      intro hreturn
      apply h
      rw [List.getLast?_append, List.getLast?_cons, hreturn]
      rfl
    rw [List.append_assoc, List.cons_append, lines_append_newline hl, lines_append_newline hl]
    exact List.cons_prefix_cons.mpr ⟨rfl, ih hrest⟩

namespace Policy

theorem zipIdx_prefix {α : Type} {xs ys : List α} (h : xs <+: ys) : xs.zipIdx <+: ys.zipIdx := by
  obtain ⟨more, rfl⟩ := h
  rw [List.zipIdx_append]
  exact List.prefix_append ..

section More

variable {m m' : Text} (h : m.lines <+: m'.lines)
include h

/-- Only a message without lines gets another subject. -/
theorem subject?_of_prefix : m.subject? = none ∨ m.subject? = m'.subject? := by
  obtain ⟨more, hmore⟩ := h
  unfold Text.subject?
  rw [← hmore]
  cases m.lines with
  | nil => exact Or.inl rfl
  | cons subject body => exact Or.inr rfl

/-- A rule says first what it says of the lines that were there before. -/
theorem Rule.check_prefix (rule : Rule) : rule.check m <+: rule.check m' := by
  have hnumbered := zipIdx_prefix h
  cases rule with
  | lineLength => exact hnumbered.filterMap _
  | ending =>
    show checkEnding m <+: checkEnding m'
    rcases subject?_of_prefix h with hnone | hsame
    · unfold checkEnding
      rw [hnone]
      exact List.nil_prefix
    · rw [checkEnding_congr hsame]
  | secondLine =>
    show checkSecondLine m <+: checkSecondLine m'
    obtain ⟨more, hmore⟩ := h
    unfold checkSecondLine
    rw [← hmore]
    match m.lines with
    | [] => exact List.nil_prefix
    | [_] => exact List.nil_prefix
    | _ :: _ :: _ => exact List.prefix_rfl
  | casing =>
    show checkCasing m <+: checkCasing m'
    rcases subject?_of_prefix h with hnone | hsame
    · unfold checkCasing
      rw [hnone]
      exact List.nil_prefix
    · rw [checkCasing_congr hsame]
  | margins => exact hnumbered.flatMap _
  | blankLines => exact hnumbered.filterMap _

theorem review_sublist : (review m).Sublist (review m') := by
  suffices hrules : ∀ rules : List Rule,
      (rules.flatMap (·.check m)).Sublist (rules.flatMap (·.check m')) from hrules Rule.all
  intro rules
  induction rules with
  | nil => exact List.Sublist.refl []
  | cons rule rules ih =>
    rw [List.flatMap_cons, List.flatMap_cons]
    exact (Rule.check_prefix h rule).sublist.append ih

end More

end Policy

/-- If text is added to a message on a new line, then each rule gives its diagnostics of the message
before all others. Thus every diagnostic of the review stays, and there are at least as many. -/
theorem review_keeps_diagnostics (m x : Text) (h : m.getLast? ≠ some '\r') :
    (∀ rule : Policy.Rule, rule.check m <+: rule.check (m ++ '\n' :: x)) ∧
    (∀ d ∈ Policy.review m, d ∈ Policy.review (m ++ '\n' :: x)) ∧
    (Policy.review m).length ≤ (Policy.review (m ++ '\n' :: x)).length := by
  have hlines := Text.lines_prefix_append_newline h x
  have hsublist := Policy.review_sublist hlines
  exact ⟨Policy.Rule.check_prefix hlines, fun d hd => hsublist.subset hd, hsublist.length_le⟩

/-- A subject with two violations, to which a second line is added. -/
theorem review_keeps_diagnostics_wip :
    "wip.".toList.getLast? ≠ some '\r' ∧
    Policy.checkEnding "wip.".toList <+: Policy.checkEnding "wip.\nmore".toList ∧
    Policy.badEnding "wip.".toList '.' ∈ Policy.review "wip.\nmore".toList ∧
    (Policy.review "wip.".toList).length ≤ (Policy.review "wip.\nmore".toList).length := by
  have hlast : "wip.".toList.getLast? ≠ some '\r' := by decide
  have hmem : Policy.badEnding "wip.".toList '.' ∈ Policy.review "wip.".toList := by decide +kernel
  obtain ⟨hrules, hkept, hlength⟩ := review_keeps_diagnostics "wip.".toList "more".toList hlast
  exact ⟨hlast, hrules .ending, hkept _ hmem, hlength⟩

end CommitGate
