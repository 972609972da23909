import CommitGate.Text.Blank
import Mathlib.Data.List.DropRight

/-!
# Texts without blanks around them

Trimming leaves a text as it is just if the text neither starts nor ends with a blank. Trimming at
either end gives a part of the text, so that a length tells whether anything was taken away.
-/

namespace CommitGate.Text

variable {t : Text}

/-- A text that neither starts nor ends with a blank. -/
structure Trimmed (t : Text) : Prop where
  /-- The first character is no blank. -/
  head : ∀ c, t.head? = some c → isBlank c = false
  /-- The last character is no blank. -/
  last : ∀ c, t.getLast? = some c → isBlank c = false

theorem trimEnd_eq_rdropWhile (t : Text) : t.trimEnd = t.rdropWhile isBlank := rfl

theorem trimStart_eq_self_iff : t.trimStart = t ↔ ∀ c, t.head? = some c → isBlank c = false := by
  cases t with
  | nil => simp [trimStart]
  | cons c rest => simp [trimStart, List.dropWhile_eq_self_iff]

theorem trimEnd_eq_self_iff : t.trimEnd = t ↔ ∀ c, t.getLast? = some c → isBlank c = false := by
  rw [trimEnd_eq_rdropWhile, List.rdropWhile_eq_self_iff]
  constructor
  · intro h c hc
    have hne : t ≠ [] := by rintro rfl; cases hc
    rw [List.getLast?_eq_some_getLast hne] at hc
    cases hc
    simpa using h hne
  · intro h hne
    simp [h _ (List.getLast?_eq_some_getLast hne)]

theorem trim_eq_self (h : t.Trimmed) : t.trim = t := by
  rw [trim, trimStart_eq_self_iff.mpr h.head, trimEnd_eq_self_iff.mpr h.last]

theorem trim_prefix_trimStart (t : Text) : t.trim <+: t.trimStart :=
  List.rdropWhile_prefix isBlank t.trimStart

theorem trim_subset (t : Text) : t.trim ⊆ t :=
  List.Subset.trans (trim_prefix_trimStart t).subset (List.dropWhile_subset isBlank)

/-- What is left between the blanks starts with something else. -/
theorem isBlank_of_head?_trim {c : Char} (h : t.trim.head? = some c) : isBlank c = false := by
  have hstart : t.trimStart.head? = some c := by
    obtain ⟨rest, hrest⟩ := trim_prefix_trimStart t
    rw [← hrest, List.head?_append, h, Option.some_or]
  have hnot := List.head?_dropWhile_not isBlank t
  rw [trimStart] at hstart
  rw [hstart] at hnot
  simpa using hnot

theorem trimmed_trim (t : Text) : t.trim.Trimmed := by
  have hagain : t.trim.trimEnd = t.trim := List.rdropWhile_idempotent isBlank t.trimStart
  exact ⟨fun c hc => isBlank_of_head?_trim hc, trimEnd_eq_self_iff.mp hagain⟩

/-! ## Lengths -/

theorem length_trimStart_le (t : Text) : t.trimStart.length ≤ t.length :=
  (List.dropWhile_suffix isBlank).length_le

theorem length_trimEnd_le (t : Text) : t.trimEnd.length ≤ t.length :=
  (List.rdropWhile_prefix isBlank t).length_le

/-- The start is trimmed just if trimming it takes nothing away. -/
theorem length_trimStart_eq_iff :
    t.trimStart.length = t.length ↔ ∀ c, t.head? = some c → isBlank c = false := by
  rw [← trimStart_eq_self_iff]
  constructor
  · exact (List.dropWhile_suffix isBlank).eq_of_length
  · intro h
    rw [h]

/-- The end is trimmed just if trimming it takes nothing away. -/
theorem length_trimEnd_eq_iff :
    t.trimEnd.length = t.length ↔ ∀ c, t.getLast? = some c → isBlank c = false := by
  rw [← trimEnd_eq_self_iff]
  constructor
  · exact (List.rdropWhile_prefix isBlank t).eq_of_length
  · intro h
    rw [h]

/-! ## Blank texts -/

theorem isAllBlank_iff : t.isAllBlank = true ↔ t ≠ [] ∧ ∀ c ∈ t, isBlank c = true := by
  cases t <;> simp [isAllBlank]

theorem isAllBlank_eq_false_iff :
    t.isAllBlank = false ↔ t = [] ∨ ∃ c ∈ t, isBlank c = false := by
  rw [← Bool.not_eq_true, isAllBlank_iff, not_and_or, not_not]
  push Not
  simp only [ne_eq, Bool.not_eq_true]

/-- A trimmed text does not consist of blanks. -/
theorem Trimmed.not_isAllBlank (h : t.Trimmed) : t.isAllBlank = false := by
  cases t with
  | nil => rfl
  | cons c rest => simp [isAllBlank, h.head c rfl]

/-- Trimming the end of a text with content leaves something. -/
theorem length_trimEnd_pos (hne : t ≠ []) (h : t.isAllBlank = false) : 0 < t.trimEnd.length := by
  rw [List.length_pos_iff, trimEnd_eq_rdropWhile]
  intro hnil
  have hblank : t.isAllBlank = true := isAllBlank_iff.mpr ⟨hne, List.rdropWhile_eq_nil_iff.mp hnil⟩
  rw [h] at hblank
  cases hblank

end CommitGate.Text
