import CommitGate.Proofs.Blank
import CommitGate.Proofs.CaseMappings
import CommitGate.Text.Sentence

/-!
# Sentence case

A text in sentence case starts with the upper-case form of its first character. What follows is made
of lower-case forms, which are letters without case or have another form in upper case, and of the
pronouns that were restored. Hence the only characters after the start that can pass for a start in
title case are the pronoun and letters without case.
-/

namespace CommitGate.Text

variable {u t : Text} {c x : Char}

/-! ## The pronoun -/

theorem restorePronoun_within_append (h : ∀ c ∈ u, isBlank c = false) (t : Text) :
    restorePronoun .within (u ++ t) = u ++ restorePronoun .within t := by
  induction u with
  | nil => rfl
  | cons c rest ih =>
    have hc := h c List.mem_cons_self
    rw [List.cons_append, restorePronoun, hc, if_neg Bool.false_ne_true,
      ih fun d hd => h d (List.mem_cons_of_mem c hd), List.cons_append]
    · simp
    · simp

/-- A start without blanks that does not start with a small `i` is passed over. -/
theorem restorePronoun_cons_append (hi : c ≠ 'i') (hc : isBlank c = false)
    (h : ∀ c ∈ u, isBlank c = false) (t : Text) :
    restorePronoun .mayStart (c :: u ++ t) = c :: u ++ restorePronoun .within t := by
  rw [List.cons_append, restorePronoun, hc, if_neg Bool.false_ne_true,
    restorePronoun_within_append h, List.cons_append]
  · exact fun _ heq => hi heq
  · simp

theorem mem_restorePronoun {search : PronounSearch} (h : x ∈ restorePronoun search t) :
    x = 'I' ∨ x = 'i' ∨ x ∈ t := by
  fun_induction restorePronoun search t with
  | case1 => exact .inl (List.mem_singleton.mp h)
  | case2 => cases h
  | case3 rest ih =>
    rcases ih h with h | h | h
    · exact .inl h
    · exact .inr (.inl h)
    · exact .inr (.inr (List.mem_cons_of_mem _ h))
  | case4 c rest hend ih =>
    simp only [List.mem_cons] at h ⊢
    tauto
  | case5 c rest hend ih =>
    simp only [List.mem_cons] at h ⊢
    tauto
  | case6 search c rest _ _ ih =>
    simp only [List.mem_cons] at h ⊢
    tauto

/-! ## What a text in sentence case is made of -/

/-- A text in sentence case starts with the upper-case form of the first character that is no blank.
-/
theorem sentenceCase_eq {s rest : Text} (h : s.trim = c :: rest) :
    sentenceCase s = upperOf c ++ restorePronoun .within (toLower rest) := by
  have hblank : isBlank c = false := isBlank_of_head?_trim (by rw [h, List.head?_cons])
  obtain ⟨first, others, hupper⟩ := List.exists_cons_of_ne_nil (upperOf_ne_nil c)
  have hstart : ∀ x ∈ first :: others, isBlank x = false ∧ x ≠ 'i' := fun x hx =>
    of_mem_upperOf hblank (by rwa [hupper])
  have hfirst := hstart first List.mem_cons_self
  rw [sentenceCase, h, capitalized, hupper]
  exact restorePronoun_cons_append hfirst.2 hfirst.1
    (fun x hx => (hstart x (List.mem_cons_of_mem first hx)).1) _

/-- A letter that is its own upper-case and its own lower-case form. -/
def Caseless (c : Char) : Prop := isLetter c = true ∧ upperOf c = [c] ∧ lowerOf c = [c]

instance : DecidablePred Caseless := fun _ => inferInstanceAs (Decidable (_ ∧ _ ∧ _))

/-- Of what comes after the start, only the pronoun and letters without case are letters that are
their own upper-case form. -/
theorem isLetter_and_upperOf_iff {search : PronounSearch}
    (h : x ∈ restorePronoun search (toLower t)) :
    isLetter x = true ∧ upperOf x = [x] ↔ x = 'I' ∨ Caseless x := by
  constructor
  · rintro ⟨hletter, hupper⟩
    -- a small `i` has a capital, and all else is a lower-case form
    rcases mem_restorePronoun h with rfl | rfl | hlower
    · exact .inl rfl
    · exact absurd hupper (by decide)
    · exact .inr ⟨hletter, hupper, lowerOf_of_mem_toLower hlower⟩
  · rintro (rfl | ⟨hletter, hupper, -⟩)
    · decide
    · exact ⟨hletter, hupper⟩

theorem newline_not_mem_sentenceCase {s : Text} (h : '\n' ∉ s) : '\n' ∉ sentenceCase s := by
  cases htrim : s.trim with
  | nil =>
    rw [sentenceCase, htrim]
    exact List.not_mem_nil
  | cons c rest =>
    have hblank : isBlank c = false := isBlank_of_head?_trim (by rw [htrim, List.head?_cons])
    rw [sentenceCase_eq htrim, List.mem_append]
    rintro (hstart | hrest)
    · exact absurd (of_mem_upperOf hblank hstart).1 (by decide)
    · rcases mem_restorePronoun hrest with heq | heq | hlower
      · exact absurd heq (by decide)
      · exact absurd heq (by decide)
      · obtain ⟨c', hc', hform⟩ := List.mem_flatMap.mp hlower
        rcases isBlank_of_mem_lowerOf hform with hfeed | rfl
        · exact absurd hfeed (by decide)
        · refine h (trim_subset s ?_)
          rw [htrim]
          exact List.mem_cons_of_mem c hc'

end CommitGate.Text
