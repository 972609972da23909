import CommitGate.Proofs.Rules
import Mathlib.Data.List.Nodup

/-!
# The codes of the rules

Every diagnostic carries the code of the rule that gives it, and no two rules share a code. Hence
what a review says under a code is what the rule with that code says, and the review can be taken
apart again.
-/

namespace CommitGate.Policy

variable {m : Text} {d : Diagnostic}

/-- The code of a rule. -/
def Rule.code : Rule → Text
  | .lineLength => "LINE_TOO_LONG".toList
  | .ending => "INVALID_ENDING_PUNCTUATION".toList
  | .secondLine => "NON_EMPTY_SECOND_LINE".toList
  | .casing => "WRONG_CASED_SUBJECT".toList
  | .margins => "UNTRIMMED_LINE".toList
  | .blankLines => "EMPTY_LINE".toList

theorem Rule.mem_all (rule : Rule) : rule ∈ Rule.all := by
  cases rule <;> decide

theorem Rule.code_injective : Function.Injective Rule.code := by
  have hnodup : (Rule.all.map Rule.code).Nodup := by decide
  intro rule rule' h
  exact List.inj_on_of_nodup_map hnodup rule.mem_all rule'.mem_all h

theorem Rule.code_of_mem_check {rule : Rule} (h : d ∈ rule.check m) : d.code = some rule.code := by
  cases rule with
  | lineLength =>
    obtain ⟨row, line, -, -, rfl⟩ := mem_checkLineLength_iff.mp h
    rfl
  | ending =>
    obtain ⟨subject, ending, -, -, -, rfl⟩ := mem_checkEnding_iff.mp h
    rfl
  | secondLine =>
    obtain ⟨subject, line, -, -, -, rfl⟩ := mem_checkSecondLine_iff.mp h
    rfl
  | casing =>
    obtain ⟨subject, -, hcase⟩ := mem_checkCasing_iff.mp h
    rcases hcase with ⟨-, rfl⟩ | ⟨-, rfl⟩ | ⟨first, rest, -, rfl⟩
    · rfl
    · rfl
    · rfl
  | margins =>
    obtain ⟨row, line, -, -, -, -, hd⟩ := mem_checkMargins_iff.mp h
    rcases hd with hd | hd
    · rw [(mem_leadingBlanks_iff.mp hd).2]
      rfl
    · rw [(mem_trailingBlanks_iff.mp hd).2]
      rfl
  | blankLines =>
    obtain ⟨row, line, -, -, rfl⟩ := mem_checkBlankLines_iff.mp h
    rfl

/-- A rule gives the diagnostics of the review that carry its code. -/
theorem Rule.mem_check_iff {rule : Rule} :
    d ∈ rule.check m ↔ d ∈ review m ∧ d.code = some rule.code := by
  constructor
  · intro h
    exact ⟨List.mem_flatMap.mpr ⟨rule, rule.mem_all, h⟩, code_of_mem_check h⟩
  · rintro ⟨h, hcode⟩
    obtain ⟨rule', -, h'⟩ := List.mem_flatMap.mp h
    have hsame : rule'.code = rule.code := by
      have hcode' := code_of_mem_check h'
      rw [hcode] at hcode'
      exact (Option.some.inj hcode').symm
    rwa [← Rule.code_injective hsame]

/-- The diagnostics of a review under the code of a rule, in their order. -/
theorem filter_code_review (rule : Rule) (m : Text) :
    (review m).filter (·.code = some rule.code) = rule.check m := by
  have hrule : ∀ rule' : Rule, (rule'.check m).filter (·.code = some rule.code) =
      if rule' = rule then rule'.check m else [] := by
    intro rule'
    split_ifs with h
    · rw [List.filter_eq_self]
      intro d hd
      rw [Rule.code_of_mem_check hd, h]
      exact decide_eq_true rfl
    · rw [List.filter_eq_nil_iff]
      intro d hd hcode
      rw [Rule.code_of_mem_check hd, decide_eq_true_eq, Option.some_inj] at hcode
      exact h (Rule.code_injective hcode)
  rw [review, List.filter_flatMap, List.flatMap_congr fun rule' _ => hrule rule']
  cases rule <;> simp [Rule.all]

end CommitGate.Policy
