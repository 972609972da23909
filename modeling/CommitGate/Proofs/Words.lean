import CommitGate.Policy.Casing
import CommitGate.Proofs.Blank
import CommitGate.Proofs.QuotedSpans

/-!
# The words of a subject

The words between blanks do not depend on the blanks around them, with quoted spans or without, so
that trimming makes no difference to the words that the verdicts on case look at. A text that starts
with a few characters and goes on with another text has, apart from the first, no words but those
that are made of characters of the other text.
-/

namespace CommitGate

namespace Text

variable {u t : Text} {c : Char}

/-! ## Words between blanks -/

/-- The words on either side of a blank do not touch. -/
theorem words_append_cons_of_isBlank (h : isBlank c = true) (u t : Text) :
    words (u ++ c :: t) = words u ++ words t := by
  rw [words, List.splitOnP_append_cons u t h, List.filter_append, words, words]

theorem words_cons_of_isBlank (h : isBlank c = true) (t : Text) : words (c :: t) = words t :=
  words_append_cons_of_isBlank h [] t

theorem words_append_of_forall_isBlank (h : ∀ c ∈ u, isBlank c = true) (t : Text) :
    words (u ++ t) = words t := by
  induction u with
  | nil => rfl
  | cons c u ih =>
    have hrest : words (u ++ t) = words t := ih fun d hd => h d (List.mem_cons_of_mem c hd)
    rw [List.cons_append, words_cons_of_isBlank (h c List.mem_cons_self), hrest]

theorem words_append_blanks {b : Text} (h : ∀ c ∈ b, isBlank c = true) (t : Text) :
    words (t ++ b) = words t := by
  cases b with
  | nil => rw [List.append_nil]
  | cons c b =>
    have hrest : words b = words [] := by
      simpa using words_append_of_forall_isBlank (fun d hd => h d (List.mem_cons_of_mem c hd)) []
    rw [words_append_cons_of_isBlank (h c List.mem_cons_self), hrest]
    exact List.append_nil (words t)

/-- The word that a text starts with goes on to the next blank. -/
theorem words_append (hu : u ≠ []) (h : ∀ c ∈ u, isBlank c = false) (t : Text) :
    words (u ++ t) =
      (u ++ t.takeWhile (!isBlank ·)) :: words (t.dropWhile (!isBlank ·)) := by
  have hword : ∀ c ∈ u ++ t.takeWhile (!isBlank ·), isBlank c = false := by
    intro c hc
    rcases List.mem_append.mp hc with hc | hc
    · exact h c hc
    · simpa using List.mem_takeWhile_imp hc
  have hkept (ws : List Text) : ((u ++ t.takeWhile (!isBlank ·)) :: ws).filter (!·.isEmpty) =
      (u ++ t.takeWhile (!isBlank ·)) :: ws.filter (!·.isEmpty) :=
    List.filter_cons_of_pos (by simp [hu])
  have hcut : u ++ t = u ++ t.takeWhile (!isBlank ·) ++ t.dropWhile (!isBlank ·) := by
    rw [List.append_assoc, List.takeWhile_append_dropWhile]
  rw [hcut]
  cases hrest : t.dropWhile (!isBlank ·) with
  | nil =>
    rw [List.append_nil, words, List.splitOnP_eq_singleton hword, hkept]
    rfl
  | cons b rest =>
    have hb : isBlank b = true := by
      have hhead := List.head?_dropWhile_not (!isBlank ·) t
      rw [hrest] at hhead
      simpa using hhead
    rw [words_cons_of_isBlank hb, words, List.splitOnP_append_cons_of_forall_mem hword b hb,
      hkept, words]

theorem words_eq_singleton (hu : u ≠ []) (h : ∀ c ∈ u, isBlank c = false) : words u = [u] := by
  have hword := words_append hu h []
  rwa [List.takeWhile_nil, List.dropWhile_nil, List.append_nil] at hword

/-- A word is made of characters of the text. -/
theorem subset_of_mem_words {w : Text} (h : w ∈ words t) : w ⊆ t := by
  -- on the length, as a whole word is passed over at a time
  induction hlength : t.length using Nat.strongRecOn generalizing t with
  | ind n ih =>
    cases t with
    | nil => cases h
    | cons c rest =>
      rw [List.length_cons] at hlength
      cases hc : isBlank c with
      | true =>
        rw [words_cons_of_isBlank hc] at h
        exact List.subset_cons_of_subset c (ih rest.length (by omega) h rfl)
      | false =>
        have hword := words_append (List.cons_ne_nil c []) (by simpa using hc) rest
        rw [List.singleton_append] at hword
        rw [hword] at h
        rcases List.mem_cons.mp h with rfl | hlater
        · exact List.cons_subset_cons c (List.takeWhile_subset _)
        · have hshort : (rest.dropWhile (!isBlank ·)).length ≤ rest.length :=
            (List.dropWhile_suffix _).length_le
          have hrest := ih _ (by omega) hlater rfl
          exact List.subset_cons_of_subset c (List.Subset.trans hrest (List.dropWhile_subset _))

/-- The words after the first, if any, are made of characters that come after the first word has
started. -/
theorem subset_of_mem_tail_words (h : ∀ c ∈ u, isBlank c = false) {w : Text}
    (hw : w ∈ (words (u ++ t)).tail) : w ⊆ t := by
  by_cases hu : u = []
  · subst hu
    exact subset_of_mem_words (List.mem_of_mem_tail hw)
  · rw [words_append hu h, List.tail_cons] at hw
    exact List.Subset.trans (subset_of_mem_words hw) (List.dropWhile_subset _)

/-! ## Blanks around quoted spans -/

theorem not_mem_delimiters_of_isBlank (h : isBlank c = true) : c ∉ delimiters := by
  have hdelimiters : ∀ d ∈ delimiters, isBlank d = false := by simp [delimiters, isBlank]
  intro hmem
  rw [hdelimiters c hmem] at h
  cases h

theorem opensNoSpan_of_forall_isBlank (h : ∀ c ∈ b, isBlank c = true) (t : Text) :
    OpensNoSpan b t := by
  have hopens : ∀ o ∈ b, ∀ c, closer? o ≠ some c := fun o ho c hclose =>
    not_mem_delimiters_of_isBlank (h o ho) (mem_delimiters_of_closer? hclose).1
  constructor
  · exact List.pairwise_of_forall_mem_list fun o ho c _ => hopens o ho c
  · exact fun o ho c _ => hopens o ho c

theorem words_withoutQuoted_trimStart (t : Text) :
    words (withoutQuoted t.trimStart) = words (withoutQuoted t) := by
  have hblank : ∀ c ∈ t.takeWhile isBlank, isBlank c = true := fun _ => List.mem_takeWhile_imp
  have hsplit : t.takeWhile isBlank ++ t.trimStart = t := List.takeWhile_append_dropWhile
  calc words (withoutQuoted t.trimStart)
      = words (t.takeWhile isBlank ++ withoutQuoted t.trimStart) :=
        (words_append_of_forall_isBlank hblank _).symm
    _ = words (withoutQuoted (t.takeWhile isBlank ++ t.trimStart)) := by
        rw [withoutQuoted_append (opensNoSpan_of_forall_isBlank hblank t.trimStart)]
    _ = words (withoutQuoted t) := by rw [hsplit]

theorem words_withoutQuoted_trimEnd (t : Text) :
    words (withoutQuoted t.trimEnd) = words (withoutQuoted t) := by
  have hblank : ∀ c ∈ t.rtakeWhile isBlank, isBlank c = true := fun _ => List.mem_rtakeWhile_imp
  have hsplit : t.trimEnd ++ t.rtakeWhile isBlank = t := List.rdropWhile_append_rtakeWhile
  have hplain : ∀ c ∈ t.rtakeWhile isBlank, c ∉ delimiters := fun c hc =>
    not_mem_delimiters_of_isBlank (hblank c hc)
  calc words (withoutQuoted t.trimEnd)
      = words (withoutQuoted t.trimEnd ++ t.rtakeWhile isBlank) :=
        (words_append_blanks hblank _).symm
    _ = words (withoutQuoted (t.trimEnd ++ t.rtakeWhile isBlank)) := by
        rw [withoutQuoted_append_of_no_delimiter hplain]
    _ = words (withoutQuoted t) := by rw [hsplit]

end Text

namespace Policy

variable {u t : Text}

/-! ## The words that the verdicts on case look at -/

/-- Trimming makes no difference to the words. -/
theorem casedWords_eq (t : Text) : casedWords t = (Text.withoutQuoted t).words := by
  rw [casedWords, Text.trim, Text.words_withoutQuoted_trimEnd, Text.words_withoutQuoted_trimStart]

/-- After a start without blanks, the words that come after the first are made of what comes after
the start. -/
theorem subset_of_mem_tail_casedWords (h : ∀ c ∈ u, Text.isBlank c = false) {w : Text}
    (hw : w ∈ (casedWords (u ++ t)).tail) : w ⊆ t := by
  obtain ⟨v, s, heq, hv, hs⟩ := Text.exists_withoutQuoted_append u t
  rw [casedWords_eq, heq] at hw
  have hword : w ⊆ s := Text.subset_of_mem_tail_words (fun c hc => h c (hv.subset hc)) hw
  exact List.Subset.trans hword hs.subset

/-- A subject that starts with a character outside quotes has a first word that starts with it, and
the rest of its words does not depend on the character. -/
theorem exists_casedWords_cons (rest : Text) :
    ∃ w ws, ∀ c, Text.isBlank c = false → Text.closer? c = none →
      casedWords (c :: rest) = (c :: w) :: ws := by
  refine ⟨(Text.withoutQuoted rest).takeWhile (!Text.isBlank ·),
    Text.words ((Text.withoutQuoted rest).dropWhile (!Text.isBlank ·)), ?_⟩
  intro c hblank hcloser
  have hwords := Text.words_append (List.cons_ne_nil c []) (by simpa using hblank)
    (Text.withoutQuoted rest)
  rw [List.singleton_append] at hwords
  rw [casedWords_eq, Text.withoutQuoted, hcloser]
  exact hwords

end Policy

end CommitGate
