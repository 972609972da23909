import CommitGate.Proofs.Rules

/-!
# Messages that pass the review

What a message must be like for the review to find nothing, said of its lines and words alone. Each
rule finds nothing just if the message satisfies one of the conditions, except that the two rules on
blanks share a condition: a line is trimmed just if it has clean margins and is not blank.
-/

namespace CommitGate.Policy

/-! ## The conditions -/

/-- A word of at least two characters that starts with a letter and is its own upper-casing. -/
def UpperWord (w : Text) : Prop :=
  1 < w.length ∧ (∃ c ∈ w.head?, Text.isLetter c = true) ∧ Text.toUpper w = w

instance : DecidablePred UpperWord := fun w =>
  inferInstanceAs (Decidable (1 < w.length ∧ (∃ c ∈ w.head?, _) ∧ Text.toUpper w = w))

/-- A word that starts with a letter which is its own upper-casing. -/
def TitleWord (w : Text) : Prop :=
  ∃ c ∈ w.head?, Text.isLetter c = true ∧ Text.upperOf c = [c]

instance : DecidablePred TitleWord := fun w =>
  inferInstanceAs (Decidable (∃ c ∈ w.head?, _ ∧ _))

/-- All words are in upper case, or at least three words and 67 in a hundred are. -/
def MostlyUpper (ws : List Text) : Prop :=
  let u := ws.countP (UpperWord ·)
  u = ws.length ∨ 3 ≤ u ∧ 67 * ws.length ≤ 100 * u

/-- All words are in title case and there are at least three, or at least five words and three
quarters of all are. -/
def MostlyTitle (ws : List Text) : Prop :=
  let t := ws.countP (TitleWord ·)
  t = ws.length ∧ 3 ≤ t ∨ 5 ≤ t ∧ 3 * ws.length ≤ 4 * t

/-- Words that are too short to tell a case, or that are in neither case. -/
def PlainCase (ws : List Text) : Prop :=
  (∀ w ∈ ws, w.length ≤ 2) ∨ ¬ (MostlyUpper ws ∨ MostlyTitle ws)

/-- A message that follows the policy. -/
structure Conforms (m : Text) : Prop where
  /-- Every line has at most 72 characters. -/
  short : ∀ line ∈ m.lines, line.length ≤ 72
  /-- The first line does not end in punctuation. -/
  ending : ∀ subject, m.lines[0]? = some subject →
    ∀ c, subject.getLast? = some c → c ∉ ['.', ',', '!', '?', ':', ';']
  /-- The line after the first one is empty. -/
  second : ∀ line, m.lines[1]? = some line → line = []
  /-- The other lines neither start nor end with a blank. -/
  trimmed : ∀ row line, m.lines[row]? = some line → row ≠ 1 → line.Trimmed
  /-- The first line starts with an upper-case character, and its words outside quotes are in
  neither case. -/
  casing : ∀ first rest, m.lines[0]? = some (first :: rest) →
    Text.isUpper first = true ∧ PlainCase (Text.withoutQuoted (first :: rest)).words

/-! ## The case of words -/

theorem isUpperWord_iff {w : Text} : isUpperWord w = true ↔ UpperWord w := by
  simp [isUpperWord, UpperWord, Option.any_eq_true, and_assoc]

theorem isTitleWord_iff {w : Text} : isTitleWord w = true ↔ TitleWord w := by
  simp [isTitleWord, TitleWord, Option.any_eq_true]

theorem inUpperCase_iff {ws : List Text} : inUpperCase ws = true ↔ MostlyUpper ws := by
  have hcount : ws.countP isUpperWord = ws.countP (UpperWord ·) :=
    List.countP_congr fun w _ => by rw [isUpperWord_iff, decide_eq_true_iff]
  simp [inUpperCase, MostlyUpper, hcount]

theorem inTitleCase_iff {ws : List Text} : inTitleCase ws = true ↔ MostlyTitle ws := by
  have hcount : ws.countP isTitleWord = ws.countP (TitleWord ·) :=
    List.countP_congr fun w _ => by rw [isTitleWord_iff, decide_eq_true_iff]
  simp only [inTitleCase, MostlyTitle, hcount, Bool.or_eq_true, Bool.and_eq_true,
    decide_eq_true_eq, beq_iff_eq]
  omega

theorem hasLongWord_eq_false_iff {ws : List Text} :
    hasLongWord ws = false ↔ ∀ w ∈ ws, w.length ≤ 2 := by
  unfold hasLongWord shortWord
  rw [List.any_eq_false]
  simp only [decide_eq_true_eq, not_lt]

/-- Neither verdict on case falls on the words. -/
theorem plainCase_iff {ws : List Text} :
    PlainCase ws ↔ ¬ (hasLongWord ws && inUpperCase ws) ∧ ¬ (hasLongWord ws && inTitleCase ws) := by
  unfold PlainCase
  rw [← hasLongWord_eq_false_iff, ← inUpperCase_iff, ← inTitleCase_iff]
  cases hasLongWord ws <;> simp

/-- The subject is as it should be: its words tell no case and it starts with upper case. -/
theorem casingOf_eq_fine_iff {first : Char} {rest : Text} :
    casingOf (first :: rest) = .fine ↔
      Text.isUpper first = true ∧ PlainCase (casedWords (first :: rest)) := by
  rw [plainCase_iff]
  unfold casingOf
  dsimp only
  split_ifs with hupper htitle hfirst
  · simp [hupper]
  · simp [htitle]
  · simp [hupper, htitle, hfirst]
  · simp [hfirst]

/-! ## Rules that find nothing -/

theorem checkLineLength_eq_nil_iff {m : Text} :
    checkLineLength m = [] ↔ ∀ line ∈ m.lines, line.length ≤ 72 := by
  rw [List.eq_nil_iff_forall_not_mem]
  simp only [mem_checkLineLength_iff]
  constructor
  · intro h line hline
    obtain ⟨row, hrow⟩ := List.mem_iff_getElem?.mp hline
    by_contra hlong
    exact h _ ⟨row, line, hrow, by unfold lineLimit; omega, rfl⟩
  · rintro h d ⟨row, line, hrow, hlong, -⟩
    have hshort := h line (List.mem_of_getElem? hrow)
    unfold lineLimit at hlong
    omega

theorem checkEnding_eq_nil_iff {m : Text} :
    checkEnding m = [] ↔ ∀ subject, m.lines[0]? = some subject →
      ∀ c, subject.getLast? = some c → c ∉ endings := by
  rw [List.eq_nil_iff_forall_not_mem]
  simp only [mem_checkEnding_iff]
  constructor
  · intro h subject hsubject c hc hbad
    exact h _ ⟨subject, c, hsubject, hc, hbad, rfl⟩
  · rintro h d ⟨subject, c, hsubject, hc, hbad, -⟩
    exact h subject hsubject c hc hbad

theorem checkSecondLine_eq_nil_iff {m : Text} :
    checkSecondLine m = [] ↔ ∀ line, m.lines[1]? = some line → line = [] := by
  rw [List.eq_nil_iff_forall_not_mem]
  simp only [mem_checkSecondLine_iff]
  constructor
  · intro h line hline
    have hlen : 0 < m.lines.length := by
      have := (List.getElem?_eq_some_iff.mp hline).1
      omega
    by_contra hne
    exact h _ ⟨_, line, List.getElem?_eq_getElem hlen, hline, hne, rfl⟩
  · rintro h d ⟨_, line, -, hline, hne, -⟩
    exact hne (h line hline)

/-- The rule on case finds nothing just if the verdict on the first line is that it is as it should
be. -/
theorem checkCasing_eq_nil_iff_fine {m : Text} :
    checkCasing m = [] ↔ ∀ subject, m.lines[0]? = some subject → casingOf subject = .fine := by
  rw [List.eq_nil_iff_forall_not_mem]
  simp only [mem_checkCasing_iff]
  constructor
  · intro h subject hsubject
    cases hcase : casingOf subject with
    | upper => exact absurd ⟨subject, hsubject, .inl ⟨hcase, rfl⟩⟩ (h _)
    | title => exact absurd ⟨subject, hsubject, .inr (.inl ⟨hcase, rfl⟩)⟩ (h _)
    | lowStart first rest =>
      exact absurd ⟨subject, hsubject, .inr (.inr ⟨first, rest, hcase, rfl⟩)⟩ (h _)
    | fine => rfl
  · rintro h d ⟨subject, hsubject, hcase⟩
    rw [h subject hsubject] at hcase
    simp at hcase

theorem checkCasing_eq_nil_iff {m : Text} :
    checkCasing m = [] ↔ ∀ first rest, m.lines[0]? = some (first :: rest) →
      Text.isUpper first = true ∧ PlainCase (casedWords (first :: rest)) := by
  rw [checkCasing_eq_nil_iff_fine]
  constructor
  · intro h first rest hsubject
    exact casingOf_eq_fine_iff.mp (h _ hsubject)
  · intro h subject hsubject
    cases subject with
    | nil => rfl
    | cons first rest => exact casingOf_eq_fine_iff.mpr (h first rest hsubject)

/-- The two rules on blanks find nothing just if the lines that they look at are trimmed. -/
theorem spacing_eq_nil_iff {m : Text} :
    checkMargins m = [] ∧ checkBlankLines m = [] ↔
      ∀ row line, m.lines[row]? = some line → row ≠ 1 → line.Trimmed := by
  simp only [List.eq_nil_iff_forall_not_mem, mem_checkMargins_iff, mem_checkBlankLines_iff]
  constructor
  · rintro ⟨hmargins, hblanks⟩ row line hline hrow
    by_cases hempty : line = []
    · subst hempty
      exact ⟨by simp, by simp⟩
    have hblank : line.isAllBlank = false := by
      by_contra hblank
      exact hblanks _ ⟨row, line, hline, ⟨hrow, by simpa using hblank⟩, rfl⟩
    refine ⟨?_, ?_⟩
    · rw [← Text.length_trimStart_eq_iff]
      by_contra hne
      have hlt := lt_of_le_of_ne (Text.length_trimStart_le line) hne
      exact hmargins _ ⟨row, line, hline, hrow, hempty, hblank,
        .inl (mem_leadingBlanks_iff.mpr ⟨hlt, rfl⟩)⟩
    · rw [← Text.length_trimEnd_eq_iff]
      by_contra hne
      have hlt := lt_of_le_of_ne (Text.length_trimEnd_le line) hne
      exact hmargins _ ⟨row, line, hline, hrow, hempty, hblank,
        .inr (mem_trailingBlanks_iff.mpr ⟨hlt, rfl⟩)⟩
  · intro h
    refine ⟨?_, ?_⟩
    · rintro d ⟨row, line, hline, hrow, -, -, hd⟩
      have htrim := h row line hline hrow
      rcases hd with hd | hd
      · rw [mem_leadingBlanks_iff, Text.length_trimStart_eq_iff.mpr htrim.head] at hd
        exact lt_irrefl _ hd.1
      · rw [mem_trailingBlanks_iff, Text.length_trimEnd_eq_iff.mpr htrim.last] at hd
        exact lt_irrefl _ hd.1
    · rintro d ⟨row, line, hline, ⟨hrow, hblank⟩, -⟩
      rw [(h row line hline hrow).not_isAllBlank] at hblank
      cases hblank

/-! ## The review -/

/-- The review finds nothing just if none of the rules does. -/
theorem review_eq_nil_iff_rules {m : Text} :
    review m = [] ↔ checkLineLength m = [] ∧ checkEnding m = [] ∧ checkSecondLine m = [] ∧
      checkCasing m = [] ∧ checkMargins m = [] ∧ checkBlankLines m = [] := by
  simp [review, Rule.all, Rule.check]

/-- The review finds nothing in a message just if the message follows the policy. -/
theorem review_eq_nil_iff_conforms (m : Text) : review m = [] ↔ Conforms m := by
  rw [review_eq_nil_iff_rules, checkLineLength_eq_nil_iff, checkEnding_eq_nil_iff,
    checkSecondLine_eq_nil_iff, checkCasing_eq_nil_iff, spacing_eq_nil_iff]
  -- the rule on case trims the first line, which changes nothing on a line that is trimmed
  have hwords : (∀ row line, m.lines[row]? = some line → row ≠ 1 → line.Trimmed) →
      ∀ first rest, m.lines[0]? = some (first :: rest) →
        casedWords (first :: rest) = (Text.withoutQuoted (first :: rest)).words := by
    intro htrimmed first rest hsubject
    unfold casedWords
    rw [Text.trim_eq_self (htrimmed 0 _ hsubject (by decide))]
  constructor
  · rintro ⟨hshort, hending, hsecond, hcasing, htrimmed⟩
    refine ⟨hshort, hending, hsecond, htrimmed, fun first rest hsubject => ?_⟩
    rw [← hwords htrimmed first rest hsubject]
    exact hcasing first rest hsubject
  · intro h
    refine ⟨h.short, h.ending, h.second, fun first rest hsubject => ?_, h.trimmed⟩
    rw [hwords h.trimmed first rest hsubject]
    exact h.casing first rest hsubject

end CommitGate.Policy
