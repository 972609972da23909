import CommitGate.Proofs.Suggestions

/-!
# What the verdict on the case of a subject depends on

The verdict looks at the words outside quoted spans and at the first character. The contents of a
quoted span are in neither, so that they have no influence on it. A word that is added at the end
counts in full, unless it holds a delimiter, which might open or close a span. One more word in
upper case leaves a subject in upper case, and one more word in title case leaves a subject in title
case, unless the words in upper case then are enough for that verdict, which takes precedence.
-/

namespace CommitGate

/-- A diagnostic apart from where it points and how to mend it: the description, the code, the hint
and the note. -/
def Diagnostic.verdict (d : Diagnostic) : Diagnostic := { d with location := none, help := none }

namespace Policy

variable {p s t w x y m : Text} {c o : Char} {ws : List Text}

/-! ## The words that the verdict looks at -/

/-- The words of a subject with a quoted span do not depend on what is quoted. -/
theorem casedWords_span (hclose : Text.closer? o = some c) (hx : c ∉ x)
    (hp : Text.OpensNoSpan p (o :: (x ++ c :: s))) :
    casedWords (p ++ o :: (x ++ c :: s)) = (p ++ Text.withoutQuoted s).words := by
  rw [casedWords_eq, Text.withoutQuoted_append hp, Text.withoutQuoted_span hclose hx]

/-- A word without delimiters at the end of a subject is one word more. -/
theorem casedWords_append_word (hw : w ≠ []) (hblank : ∀ c ∈ w, Text.isBlank c = false)
    (hplain : ∀ c ∈ w, c ∉ Text.delimiters) (t : Text) :
    casedWords (t ++ ' ' :: w) = casedWords t ++ [w] := by
  have hspace : Text.isBlank ' ' = true := by decide
  have hplain' : ∀ c ∈ ' ' :: w, c ∉ Text.delimiters :=
    List.forall_mem_cons.mpr ⟨by decide, hplain⟩
  rw [casedWords_eq, Text.withoutQuoted_append_of_no_delimiter hplain',
    Text.words_append_cons_of_isBlank hspace, Text.words_eq_singleton hw hblank, casedWords_eq]

/-! ## Quoted terms -/

/-- The verdict depends on the words that count and on the first character alone. -/
theorem map_verdict_checkCasing_congr (hs : '\n' ∉ s) (ht : '\n' ∉ t) (hhead : s.head? = t.head?)
    (hwords : casedWords s = casedWords t) :
    (checkCasing s).map (·.verdict) = (checkCasing t).map (·.verdict) := by
  cases s with
  | nil =>
    cases t with
    | nil => rfl
    | cons first rest => cases hhead
  | cons first rest =>
    cases t with
    | nil => cases hhead
    | cons first' rest' =>
      obtain rfl : first = first' := Option.some.inj hhead
      unfold checkCasing
      rw [Text.subject?_of_not_mem hs (List.cons_ne_nil _ _),
        Text.subject?_of_not_mem ht (List.cons_ne_nil _ _)]
      dsimp only
      rw [casingOf_eq, casingOf_eq, hwords]
      split_ifs <;> rfl

theorem newline_not_mem_span (hclose : Text.closer? o = some c) (hp : '\n' ∉ p) (hx : '\n' ∉ x)
    (hs : '\n' ∉ s) : '\n' ∉ p ++ o :: (x ++ c :: s) := by
  obtain ⟨ho, hc⟩ := Text.mem_delimiters_of_closer? hclose
  have hne : ∀ d ∈ Text.delimiters, '\n' ≠ d := by simp [Text.delimiters]
  simp only [List.mem_append, List.mem_cons, not_or]
  exact ⟨hp, hne o ho, hx, hne c hc, hs⟩

/-- What is quoted has no influence on the verdict: with one text between the delimiters or with
another, the same is said of the subject. -/
theorem quoted_term_irrelevant (hclose : Text.closer? o = some c) (hp : '\n' ∉ p) (hs : '\n' ∉ s)
    (hx : '\n' ∉ x ∧ c ∉ x) (hy : '\n' ∉ y ∧ c ∉ y)
    (hpx : Text.OpensNoSpan p (o :: (x ++ c :: s)))
    (hpy : Text.OpensNoSpan p (o :: (y ++ c :: s))) :
    (checkCasing (p ++ o :: (x ++ c :: s))).map (·.verdict) =
      (checkCasing (p ++ o :: (y ++ c :: s))).map (·.verdict) := by
  have hhead : (p ++ o :: (x ++ c :: s)).head? = (p ++ o :: (y ++ c :: s)).head? := by
    cases p <;> rfl
  have hwords : casedWords (p ++ o :: (x ++ c :: s)) = casedWords (p ++ o :: (y ++ c :: s)) := by
    rw [casedWords_span hclose hx.2 hpx, casedWords_span hclose hy.2 hpy]
  exact map_verdict_checkCasing_congr (newline_not_mem_span hclose hp hx.1 hs)
    (newline_not_mem_span hclose hp hy.1 hs) hhead hwords

/-- A subject with a name between apostrophes, which touch the words around them. -/
def nameChange (name : Text) : Text :=
  "Rename Pre".toList ++ '\'' :: (name ++ '\'' :: "Fix To The Lexer".toList)

/-- The subject stays in title case when another name comes between the apostrophes, though the
names hold delimiters, blanks and small letters. -/
theorem quoted_term_irrelevant_nameChange :
    (checkCasing (nameChange "OLD\x60".toList)).map (·.verdict) =
      (checkCasing (nameChange "the new [one] ".toList)).map (·.verdict) ∧
    (checkCasing (nameChange "OLD\x60".toList)).map (·.hint) =
      [some "subject in title case".toList] := by
  have hold : Text.OpensNoSpan "Rename Pre".toList
      ('\'' :: ("OLD\x60".toList ++ '\'' :: "Fix To The Lexer".toList)) := by decide
  have hnew : Text.OpensNoSpan "Rename Pre".toList
      ('\'' :: ("the new [one] ".toList ++ '\'' :: "Fix To The Lexer".toList)) := by decide
  have holdName : '\n' ∉ "OLD\x60".toList ∧ '\'' ∉ "OLD\x60".toList := by decide
  have hnewName : '\n' ∉ "the new [one] ".toList ∧ '\'' ∉ "the new [one] ".toList := by decide
  have hclose : Text.closer? '\'' = some '\'' := rfl
  have hsame := quoted_term_irrelevant hclose (by decide) (by decide) holdName hnewName hold hnew
  have htitle : (checkCasing (nameChange "OLD\x60".toList)).map (·.hint) =
      [some "subject in title case".toList] := by
    decide +kernel
  exact ⟨hsame, htitle⟩

/-! ## One more word -/

theorem countP_concat_of_pos {P : Text → Bool} (hw : P w = true) (ws : List Text) :
    (ws ++ [w]).countP P = ws.countP P + 1 := by
  rw [List.countP_append, List.countP_singleton, if_pos hw]

theorem MostlyUpper.concat (h : MostlyUpper ws) (hw : UpperWord w) : MostlyUpper (ws ++ [w]) := by
  have hcount := countP_concat_of_pos (P := (UpperWord ·)) (decide_eq_true hw) ws
  have hlength : (ws ++ [w]).length = ws.length + 1 := List.length_append
  unfold MostlyUpper at h ⊢
  rw [hcount, hlength]
  dsimp only at h ⊢
  omega

theorem MostlyTitle.concat (h : MostlyTitle ws) (hw : TitleWord w) : MostlyTitle (ws ++ [w]) := by
  have hcount := countP_concat_of_pos (P := (TitleWord ·)) (decide_eq_true hw) ws
  have hlength : (ws ++ [w]).length = ws.length + 1 := List.length_append
  unfold MostlyTitle at h ⊢
  rw [hcount, hlength]
  dsimp only at h ⊢
  omega

theorem casingOf_eq_upper_iff {subject : Text} : casingOf subject = .upper ↔
    (∃ w ∈ casedWords subject, 2 < w.length) ∧ MostlyUpper (casedWords subject) := by
  cases subject with
  | nil => simp [casingOf, casedWords_nil]
  | cons first rest =>
    rw [casingOf_eq]
    split_ifs with hupper <;> simp [hupper]

theorem long_and_mostlyTitle_of_casingOf {subject : Text} (h : casingOf subject = .title) :
    (∃ w ∈ casedWords subject, 2 < w.length) ∧ MostlyTitle (casedWords subject) := by
  obtain ⟨hlong, hupper | htitle⟩ := casingOf_upper_or_title_iff.mp (.inr h)
  · rw [casingOf_eq_upper_iff.mpr ⟨hlong, hupper⟩] at h
    cases h
  · exact ⟨hlong, htitle⟩

/-- The remark on a subject tells the verdict. -/
theorem map_hint_checkCasing_iff {subject : Text} (hsubject : m.subject? = some subject) :
    ((checkCasing m).map (·.hint) = [some "subject in upper case".toList] ↔
      casingOf subject = .upper) ∧
    ((checkCasing m).map (·.hint) = [some "subject in title case".toList] ↔
      casingOf subject = .title) := by
  have hhint : ∀ {a b : Text}, a ≠ b → [some a] ≠ [some b] := fun hne heq =>
    hne (Option.some.inj (List.cons.inj heq).1)
  unfold checkCasing
  rw [hsubject]
  dsimp only
  cases casingOf subject with
  | upper => exact ⟨iff_of_true rfl rfl, iff_of_false (hhint (by decide)) (by simp)⟩
  | title => exact ⟨iff_of_false (hhint (by decide)) (by simp), iff_of_true rfl rfl⟩
  | lowStart first rest =>
    exact ⟨iff_of_false (hhint (by decide)) (by simp), iff_of_false (hhint (by decide)) (by simp)⟩
  | fine => simp

theorem subject?_of_map_hint {hint : Option Text} (hm : '\n' ∉ m)
    (h : (checkCasing m).map (·.hint) = [hint]) : m.subject? = some m := by
  refine Text.subject?_of_not_mem hm ?_
  rintro rfl
  cases h

theorem TitleWord.ne_nil (h : TitleWord w) : w ≠ [] := by
  obtain ⟨c, hc, -⟩ := h
  rintro rfl
  cases hc

theorem newline_not_mem_append_word (hm : '\n' ∉ m) (hblank : ∀ c ∈ w, Text.isBlank c = false) :
    '\n' ∉ m ++ ' ' :: w := by
  have hfeed : Text.isBlank '\n' = true := by decide
  have hw : '\n' ∉ w := by
    intro hmem
    rw [hblank '\n' hmem] at hfeed
    cases hfeed
  simp [hm, hw]

/-- A subject in upper case with one more word in upper case stays in upper case, and a subject in
title case with one more word in title case is in one of the two cases. -/
theorem one_more_word_flagged (hm : '\n' ∉ m) (hblank : ∀ c ∈ w, Text.isBlank c = false)
    (hplain : ∀ c ∈ w, c ∉ Text.delimiters) :
    ((checkCasing m).map (·.hint) = [some "subject in upper case".toList] → UpperWord w →
      (checkCasing (m ++ ' ' :: w)).map (·.hint) = [some "subject in upper case".toList]) ∧
    ((checkCasing m).map (·.hint) = [some "subject in title case".toList] → TitleWord w →
      FlagsCase (checkCasing (m ++ ' ' :: w))) := by
  have hlonger : (m ++ ' ' :: w).subject? = some (m ++ ' ' :: w) :=
    Text.subject?_of_not_mem (newline_not_mem_append_word hm hblank) (by simp)
  have hlong : (∃ v ∈ casedWords m, 2 < v.length) → ∃ v ∈ casedWords m ++ [w], 2 < v.length := by
    rintro ⟨v, hv, hlong⟩
    exact ⟨v, List.mem_append_left [w] hv, hlong⟩
  constructor
  · intro hhint hw
    have hne : w ≠ [] := (upperWord_iff.mp hw).1.ne_nil
    have hcase := (map_hint_checkCasing_iff (subject?_of_map_hint hm hhint)).1.mp hhint
    obtain ⟨hlong', hupper⟩ := casingOf_eq_upper_iff.mp hcase
    rw [(map_hint_checkCasing_iff hlonger).1, casingOf_eq_upper_iff,
      casedWords_append_word hne hblank hplain]
    exact ⟨hlong hlong', hupper.concat hw⟩
  · intro hhint hw
    have hcase := (map_hint_checkCasing_iff (subject?_of_map_hint hm hhint)).2.mp hhint
    obtain ⟨hlong', htitle⟩ := long_and_mostlyTitle_of_casingOf hcase
    rw [flagsCase_checkCasing_iff hlonger, casingOf_upper_or_title_iff,
      casedWords_append_word hw.ne_nil hblank hplain]
    exact ⟨hlong hlong', .inr (htitle.concat hw)⟩

/-- Three words in upper case of four are enough, and four of five are. Two of three are not, but
the three are in title case; with one more word in upper case, three of four are enough again. -/
theorem one_more_word_flagged_now :
    (checkCasing ("UPDATE ALL DEPS today".toList ++ ' ' :: "NOW".toList)).map (·.hint) =
      [some "subject in upper case".toList] ∧
    FlagsCase (checkCasing ("FIX THE Lexer".toList ++ ' ' :: "NOW".toList)) := by
  have hblank : ∀ c ∈ "NOW".toList, Text.isBlank c = false := by simp [Text.isBlank]
  have hplain : ∀ c ∈ "NOW".toList, c ∉ Text.delimiters := by simp [Text.delimiters]
  have hupper : UpperWord "NOW".toList := isUpperWord_iff.mp (by decide)
  have htitle : TitleWord "NOW".toList := isTitleWord_iff.mp (by decide)
  have hdeps : (checkCasing "UPDATE ALL DEPS today".toList).map (·.hint) =
      [some "subject in upper case".toList] := by decide +kernel
  have hlexer : (checkCasing "FIX THE Lexer".toList).map (·.hint) =
      [some "subject in title case".toList] := by decide +kernel
  exact ⟨(one_more_word_flagged (by decide) hblank hplain).1 hdeps hupper,
    (one_more_word_flagged (by decide) hblank hplain).2 hlexer htitle⟩

end Policy

end CommitGate
