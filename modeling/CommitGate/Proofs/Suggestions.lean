import CommitGate.Proofs.Conformity
import CommitGate.Proofs.Lines
import CommitGate.Proofs.Sentence
import CommitGate.Proofs.Words

/-!
# Subjects that were suggested

A suggestion changes the case of characters, and the verdict on the changed subject counts its words
anew. A capital at the start makes the first word one more in title case, and maybe one more in upper
case. A subject in sentence case has, after its first word, no words in title case but those that
start with the pronoun or with a letter without case. In both cases the new verdict is the one that
these counts give, and where they are too small the suggestion is accepted.
-/

namespace CommitGate.Policy

variable {m subject rest : Text} {first : Char} {d : Diagnostic}

/-! ## The verdict on a subject -/

instance : DecidablePred MostlyUpper := fun _ => inferInstanceAs (Decidable (_ ∨ _ ∧ _))

instance : DecidablePred MostlyTitle := fun _ => inferInstanceAs (Decidable (_ ∧ _ ∨ _ ∧ _))

theorem hasLongWord_iff {ws : List Text} : hasLongWord ws = true ↔ ∃ w ∈ ws, 2 < w.length := by
  unfold hasLongWord shortWord
  rw [List.any_eq_true]
  simp only [decide_eq_true_eq]

theorem countP_upperWord (ws : List Text) : ws.countP (UpperWord ·) = ws.countP isUpperWord :=
  List.countP_congr fun w _ => by rw [isUpperWord_iff, decide_eq_true_iff]

theorem countP_titleWord (ws : List Text) : ws.countP (TitleWord ·) = ws.countP isTitleWord :=
  List.countP_congr fun w _ => by rw [isTitleWord_iff, decide_eq_true_iff]

theorem casingOf_eq (first : Char) (rest : Text) :
    casingOf (first :: rest) =
      if (∃ w ∈ casedWords (first :: rest), 2 < w.length) ∧ MostlyUpper (casedWords (first :: rest)) then
        .upper
      else if (∃ w ∈ casedWords (first :: rest), 2 < w.length) ∧
          MostlyTitle (casedWords (first :: rest)) then .title
      else if Text.isUpper first = true then .fine
      else .lowStart first rest := by
  simp only [casingOf, Bool.and_eq_true, hasLongWord_iff, inUpperCase_iff, inTitleCase_iff]

/-- What is said of a subject that starts with an upper-case character. -/
theorem map_hint_checkCasing (hsubject : m.subject? = some (first :: rest))
    (hfirst : Text.isUpper first = true) :
    (checkCasing m).map (·.hint) =
      if (∃ w ∈ casedWords (first :: rest), 2 < w.length) ∧ MostlyUpper (casedWords (first :: rest)) then
        [some "subject in upper case".toList]
      else if (∃ w ∈ casedWords (first :: rest), 2 < w.length) ∧
          MostlyTitle (casedWords (first :: rest)) then [some "subject in title case".toList]
      else [] := by
  unfold checkCasing
  rw [hsubject]
  dsimp only
  rw [casingOf_eq]
  split_ifs <;> rfl

/-! ## A capital at the start -/

/-- A small letter of ASCII has a capital, which is a letter and its own upper-case form; neither is
a blank or a delimiter. -/
theorem capital_of_isLower (h : first.isLower = true) :
    (Text.upperOf first = [first.toUpper] ∧ Text.upperOf first.toUpper = [first.toUpper] ∧
      Text.isLetter first.toUpper = true ∧ Text.isUpper first.toUpper = true) ∧
    (Text.isBlank first = false ∧ Text.closer? first = none) ∧
    Text.isBlank first.toUpper = false ∧ Text.closer? first.toUpper = none := by
  have hascii : Text.isAscii first = true := by
    have hbounds : (decide (first.val ≥ 'a'.val) && decide (first.val ≤ 'z'.val)) = true := h
    have hle : first.val.toNat ≤ 'z'.val.toNat :=
      UInt32.le_iff_toNat_le.mp (of_decide_eq_true (Bool.and_eq_true_iff.mp hbounds).2)
    have hbelow : first.toNat < 0x80 := Nat.lt_of_le_of_lt hle (by decide)
    exact decide_eq_true hbelow
  exact Text.of_isAscii (p := fun c => c.isLower = true →
    (Text.upperOf c = [c.toUpper] ∧ Text.upperOf c.toUpper = [c.toUpper] ∧
      Text.isLetter c.toUpper = true ∧ Text.isUpper c.toUpper = true) ∧
    (Text.isBlank c = false ∧ Text.closer? c = none) ∧
    Text.isBlank c.toUpper = false ∧ Text.closer? c.toUpper = none) (by decide +kernel) hascii h

theorem titleWord_cons_iff {c : Char} {w : Text} :
    TitleWord (c :: w) ↔ Text.isLetter c = true ∧ Text.upperOf c = [c] := by
  simp [TitleWord]

/-- Words in upper case are in title case. -/
theorem upperWord_iff {w : Text} :
    UpperWord w ↔ TitleWord w ∧ 1 < w.length ∧ Text.toUpper w = w := by
  cases w with
  | nil => simp [UpperWord, TitleWord]
  | cons c w =>
    rw [titleWord_cons_iff, UpperWord, Text.toUpper_cons_eq_self_iff]
    simp only [List.head?_cons, Option.mem_def, Option.some.injEq, exists_eq_left']
    tauto

/-- The message that a subject is flagged for starting low, with the suggestion in its help. -/
theorem exists_of_mem_lowStart (hsubject : m.subject? = some (first :: rest)) (hd : d ∈ checkCasing m)
    (hhint : d.hint = some "non-uppercase starting character".toList) :
    d.help.bind Help.suggestion? = some (Text.upperOf first ++ rest) := by
  rw [subject?_eq] at hsubject
  obtain ⟨subject, hsubject', hcase⟩ := mem_checkCasing_iff.mp hd
  obtain rfl : subject = first :: rest := Option.some.inj (hsubject'.symm.trans hsubject)
  rcases hcase with ⟨-, rfl⟩ | ⟨-, rfl⟩ | ⟨first', rest', hlow, rfl⟩
  · exact absurd (Option.some.inj hhint) (by decide)
  · exact absurd (Option.some.inj hhint) (by decide)
  · cases eq_of_casingOf_eq_lowStart hlow
    rfl

/-- The suggestion to start with a capital gives a subject that does not start low any more. Of its
words, the first is one more in title case than before, and one more in upper case if the rest of it
is its own upper-case form. Nothing is said of the suggested subject unless the words, counted so, are
in upper case or in title case. -/
theorem capital_start_verdict (hsubject : m.subject? = some (first :: rest))
    (hfirst : first.isLower = true) (hd : d ∈ checkCasing m)
    (hhint : d.hint = some "non-uppercase starting character".toList) :
    d.help.bind Help.suggestion? = some (first.toUpper :: rest) ∧
    ∃ w ws, casedWords (first :: rest) = (first :: w) :: ws ∧
      let n := ws.length + 1
      let u := ws.countP (UpperWord ·) + if w ≠ [] ∧ Text.toUpper w = w then 1 else 0
      let t := ws.countP (TitleWord ·) + 1
      let long := ∃ v ∈ (first :: w) :: ws, 2 < v.length
      (checkCasing (first.toUpper :: rest)).map (·.hint) =
        if long ∧ (u = n ∨ 3 ≤ u ∧ 67 * n ≤ 100 * u) then [some "subject in upper case".toList]
        else if long ∧ (t = n ∧ 3 ≤ n ∨ 5 ≤ t ∧ 3 * n ≤ 4 * t) then
          [some "subject in title case".toList]
        else [] := by
  obtain ⟨⟨hform, hself, hletter, hupper⟩, ⟨hblank, hcloser⟩, hblank', hcloser'⟩ :=
    capital_of_isLower hfirst
  have hhelp := exists_of_mem_lowStart hsubject hd hhint
  rw [hform, List.singleton_append] at hhelp
  refine ⟨hhelp, ?_⟩
  obtain ⟨w, ws, hwords⟩ := exists_casedWords_cons rest
  refine ⟨w, ws, hwords first hblank hcloser, ?_⟩
  have hfeed : '\n' ∉ first.toUpper :: rest := by
    have hline := Text.newline_not_mem_of_mem_lines (List.mem_of_head? hsubject)
    simp only [List.mem_cons, not_or] at hline ⊢
    refine ⟨?_, hline.2⟩
    rintro heq
    rw [← heq] at hblank'
    exact absurd hblank' (by decide)
  have hsame := Text.subject?_of_not_mem hfeed (List.cons_ne_nil _ _)
  have hcounted := map_hint_checkCasing hsame hupper
  rw [hwords first.toUpper hblank' hcloser'] at hcounted
  rw [hcounted]
  have htitle : TitleWord (first.toUpper :: w) := titleWord_cons_iff.mpr ⟨hletter, hself⟩
  have hfirstWord : UpperWord (first.toUpper :: w) ↔ w ≠ [] ∧ Text.toUpper w = w := by
    rw [upperWord_iff, Text.toUpper_cons_eq_self_iff, List.length_cons, Nat.lt_add_left_iff_pos,
      List.length_pos_iff]
    simp only [htitle, hself, true_and]
  have hu : ((first.toUpper :: w) :: ws).countP (UpperWord ·) =
      ws.countP (UpperWord ·) + if w ≠ [] ∧ Text.toUpper w = w then 1 else 0 := by
    rw [List.countP_cons]
    simp only [decide_eq_true_eq, hfirstWord]
  have ht : ((first.toUpper :: w) :: ws).countP (TitleWord ·) = ws.countP (TitleWord ·) + 1 :=
    List.countP_cons_of_pos (decide_eq_true htitle)
  have hlong : (∃ v ∈ (first.toUpper :: w) :: ws, 2 < v.length) ↔
      ∃ v ∈ (first :: w) :: ws, 2 < v.length := by
    simp only [List.exists_mem_cons_iff, List.length_cons]
  have hall : ∀ a b : Nat, (a = b ∧ 3 ≤ a ↔ a = b ∧ 3 ≤ b) := by omega
  simp only [MostlyUpper, MostlyTitle, hu, ht, hlong, hall, List.length_cons]

/-- The words of this subject are in no case, with the capital or without. -/
theorem capital_start_accepted :
    (checkCasing "Fix the parser".toList).map (·.hint) = [] := by
  have hflagged : lowStart 'f' "ix the parser".toList ∈ checkCasing "fix the parser".toList := by
    decide +kernel
  have hwords : casedWords "fix the parser".toList =
      ["fix".toList, "the".toList, "parser".toList] := by
    decide +kernel
  have hsubject : Text.subject? "fix the parser".toList = some ('f' :: "ix the parser".toList) := by
    decide +kernel
  obtain ⟨-, w, ws, hcased, hverdict⟩ :=
    capital_start_verdict hsubject (by decide) hflagged rfl
  cases hcased.symm.trans hwords
  simp only [countP_upperWord, countP_titleWord] at hverdict
  exact hverdict.trans (by decide +kernel)

/-- The suggestion for this subject is in title case. -/
theorem capital_start_in_title_case :
    ∃ d ∈ checkCasing "fix The Parser".toList,
      d.hint = some "non-uppercase starting character".toList ∧
      d.help.bind Help.suggestion? = some "Fix The Parser".toList ∧
      checkCasing "Fix The Parser".toList ≠ [] := by
  decide +kernel

/-! ## Sentence case -/

/-- Some diagnostic is about a subject in upper case or in title case. -/
def FlagsCase (ds : List Diagnostic) : Prop :=
  ∃ d ∈ ds, d.hint = some "subject in upper case".toList ∨
    d.hint = some "subject in title case".toList

instance : DecidablePred FlagsCase := fun _ => inferInstanceAs (Decidable (∃ d ∈ _, _ ∨ _))

/-- A word that starts with the pronoun or with a letter without case. -/
def Lasting (w : Text) : Prop := ∃ c ∈ w.head?, c = 'I' ∨ Text.Caseless c

instance : DecidablePred Lasting := fun w =>
  decidable_of_iff (w.head?.any fun c => decide (c = 'I' ∨ Text.Caseless c)) <| by
    simp only [Lasting, Option.any_eq_true, decide_eq_true_eq, Option.mem_def]

theorem casedWords_nil : casedWords [] = [] := by
  simp [casedWords, Text.trim, Text.trimStart, Text.trimEnd, Text.withoutQuoted, Text.words]

theorem casingOf_upper_or_title_iff : casingOf subject = .upper ∨ casingOf subject = .title ↔
    (∃ w ∈ casedWords subject, 2 < w.length) ∧
      (MostlyUpper (casedWords subject) ∨ MostlyTitle (casedWords subject)) := by
  cases subject with
  | nil => simp [casingOf, casedWords_nil]
  | cons first rest =>
    rw [casingOf_eq, and_or_left]
    split_ifs with hupper htitle hfirst
    · exact iff_of_true (.inl rfl) (.inl hupper)
    · exact iff_of_true (.inr rfl) (.inr htitle)
    · simp only [or_self, hupper, htitle]
    · simp only [or_self, hupper, htitle]

theorem flagsCase_checkCasing_iff (hsubject : m.subject? = some subject) :
    FlagsCase (checkCasing m) ↔ casingOf subject = .upper ∨ casingOf subject = .title := by
  have hsubject' := hsubject
  rw [subject?_eq] at hsubject'
  constructor
  · rintro ⟨d, hd, hhint⟩
    obtain ⟨other, hother, hcase⟩ := mem_checkCasing_iff.mp hd
    obtain rfl : other = subject := Option.some.inj (hother.symm.trans hsubject')
    rcases hcase with ⟨hupper, -⟩ | ⟨htitle, -⟩ | ⟨first, rest, -, rfl⟩
    · exact .inl hupper
    · exact .inr htitle
    · rcases hhint with hhint | hhint
      · exact absurd (Option.some.inj hhint) (by decide)
      · exact absurd (Option.some.inj hhint) (by decide)
  · rintro (hupper | htitle)
    · exact ⟨_, mem_checkCasing_iff.mpr ⟨subject, hsubject', .inl ⟨hupper, rfl⟩⟩, .inl rfl⟩
    · exact ⟨_, mem_checkCasing_iff.mpr ⟨subject, hsubject', .inr (.inl ⟨htitle, rfl⟩)⟩, .inr rfl⟩

/-- There is one diagnostic for a subject in either case, and it suggests sentence case. -/
theorem exists_checkCasing_eq_singleton (hsubject : m.subject? = some subject)
    (h : casingOf subject = .upper ∨ casingOf subject = .title) :
    ∃ d, checkCasing m = [d] ∧
      d.help.bind Help.suggestion? = some (Text.sentenceCase subject) := by
  unfold checkCasing
  rw [hsubject]
  dsimp only
  rcases h with hupper | htitle
  · rw [hupper]
    exact ⟨_, rfl, rfl⟩
  · rw [htitle]
    exact ⟨_, rfl, rfl⟩

/-- After the first word of a text in sentence case, a word is in title case just if it starts with
the pronoun or with a letter without case. -/
theorem titleWord_iff_lasting {w : Text} (hw : w ∈ (casedWords (Text.sentenceCase subject)).tail) :
    TitleWord w ↔ Lasting w := by
  cases htrim : subject.trim with
  | nil =>
    rw [Text.sentenceCase, htrim] at hw
    have hnil : Text.restorePronoun .mayStart (Text.capitalized []) = [] := rfl
    rw [hnil, casedWords_nil] at hw
    cases hw
  | cons c rest =>
    have hblank : Text.isBlank c = false :=
      Text.isBlank_of_head?_trim (by rw [htrim, List.head?_cons])
    rw [Text.sentenceCase_eq htrim] at hw
    have hsubset := subset_of_mem_tail_casedWords
      (fun x hx => (Text.of_mem_upperOf hblank hx).1) hw
    have hstart : ∀ x ∈ w.head?, (Text.isLetter x = true ∧ Text.upperOf x = [x] ↔
        x = 'I' ∨ Text.Caseless x) :=
      fun x hx => Text.isLetter_and_upperOf_iff (hsubset (List.mem_of_head? hx))
    exact exists_congr fun x => and_congr_right fun hx => hstart x hx

theorem countP_eq_take_add_tail (p : Text → Bool) (ws : List Text) :
    ws.countP p = (ws.take 1).countP p + ws.tail.countP p := by
  rw [← List.countP_append, ← List.drop_one, List.take_append_drop]

theorem countP_take_one_le (p : Text → Bool) (ws : List Text) : (ws.take 1).countP p ≤ 1 :=
  List.countP_le_length.trans (List.length_take_le 1 ws)

/-- A subject in either case has a word, and so has something to start the sentence with. -/
theorem subject?_sentenceCase (hsubject : m.subject? = some subject)
    (h : casingOf subject = .upper ∨ casingOf subject = .title) :
    Text.subject? (Text.sentenceCase subject) = some (Text.sentenceCase subject) := by
  have hfeed : '\n' ∉ subject := Text.newline_not_mem_of_mem_lines (List.mem_of_head? hsubject)
  refine Text.subject?_of_not_mem (Text.newline_not_mem_sentenceCase hfeed) ?_
  cases htrim : subject.trim with
  | nil =>
    obtain ⟨⟨w, hw, -⟩, -⟩ := casingOf_upper_or_title_iff.mp h
    rw [casedWords, htrim] at hw
    have hnil := casedWords_nil
    rw [casedWords, show Text.trim [] = [] from rfl] at hnil
    rw [hnil] at hw
    cases hw
  | cons c rest =>
    rw [Text.sentenceCase_eq htrim]
    exact List.append_ne_nil_of_left_ne_nil (Text.upperOf_ne_nil c) _

/-- The suggestion for a subject in upper case or in title case is the subject in sentence case. Of
its words, only the first and those that start with the pronoun or with a letter without case can be
in title case, and of these only the ones that are their own upper-case form in upper case. The
suggested subject is flagged for either case again just if these words are enough. With no other word
than the first among them they are not, unless the first is the only word. -/
theorem sentence_case_verdict (hsubject : m.subject? = some subject)
    (hflagged : FlagsCase (checkCasing m)) :
    (∃ d, checkCasing m = [d] ∧
      d.help.bind Help.suggestion? = some (Text.sentenceCase subject)) ∧
    let ws := casedWords (Text.sentenceCase subject)
    let n := ws.length
    let u := (ws.take 1).countP (UpperWord ·) +
      ws.tail.countP fun w => Lasting w ∧ 1 < w.length ∧ Text.toUpper w = w
    let t := (ws.take 1).countP (TitleWord ·) + ws.tail.countP (Lasting ·)
    (FlagsCase (checkCasing (Text.sentenceCase subject)) ↔
      (∃ w ∈ ws, 2 < w.length) ∧
        ((u = n ∨ 3 ≤ u ∧ 67 * n ≤ 100 * u) ∨ (t = n ∧ 3 ≤ n ∨ 5 ≤ t ∧ 3 * n ≤ 4 * t))) ∧
    (2 ≤ n → (∀ w ∈ ws.tail, ¬ Lasting w) →
      ¬ FlagsCase (checkCasing (Text.sentenceCase subject))) := by
  have hcase := (flagsCase_checkCasing_iff hsubject).mp hflagged
  refine ⟨exists_checkCasing_eq_singleton hsubject hcase, ?_⟩
  have hflags : FlagsCase (checkCasing (Text.sentenceCase subject)) ↔ _ :=
    (flagsCase_checkCasing_iff (subject?_sentenceCase hsubject hcase)).trans
      casingOf_upper_or_title_iff
  have hlasting : ∀ w ∈ (casedWords (Text.sentenceCase subject)).tail, (TitleWord w ↔ Lasting w) :=
    fun w hw => titleWord_iff_lasting hw
  generalize casedWords (Text.sentenceCase subject) = ws at hflags hlasting ⊢
  have hu : ws.countP (UpperWord ·) = (ws.take 1).countP (UpperWord ·) +
      ws.tail.countP fun w => Lasting w ∧ 1 < w.length ∧ Text.toUpper w = w := by
    have htail : ws.tail.countP (UpperWord ·) =
        ws.tail.countP fun w => Lasting w ∧ 1 < w.length ∧ Text.toUpper w = w := by
      refine List.countP_congr fun w hw => ?_
      simp only [decide_eq_true_eq, upperWord_iff, hlasting w hw]
    rw [countP_eq_take_add_tail, htail]
  have ht : ws.countP (TitleWord ·) =
      (ws.take 1).countP (TitleWord ·) + ws.tail.countP (Lasting ·) := by
    have htail : ws.tail.countP (TitleWord ·) = ws.tail.countP (Lasting ·) := by
      refine List.countP_congr fun w hw => ?_
      simp only [decide_eq_true_eq, hlasting w hw]
    rw [countP_eq_take_add_tail, htail]
  have hall : ∀ a b : Nat, (a = b ∧ 3 ≤ a ↔ a = b ∧ 3 ≤ b) := by omega
  simp only [MostlyUpper, MostlyTitle, hu, ht, hall] at hflags
  refine ⟨hflags, ?_⟩
  intro hmany hnone hagain
  have hupper : (ws.tail.countP fun w => Lasting w ∧ 1 < w.length ∧ Text.toUpper w = w) = 0 := by
    rw [List.countP_eq_zero]
    intro w hw
    simp [hnone w hw]
  have htitle : ws.tail.countP (Lasting ·) = 0 := by
    rw [List.countP_eq_zero]
    intro w hw
    simp [hnone w hw]
  have hfirstUpper := countP_take_one_le (UpperWord ·) ws
  have hfirstTitle := countP_take_one_le (TitleWord ·) ws
  have henough := (hflags.mp hagain).2
  rw [hupper, htitle] at henough
  omega

/-- No word but the first of "Fix the parser" starts with the pronoun. -/
theorem sentence_case_accepted :
    FlagsCase (checkCasing "FIX THE PARSER".toList) ∧
      ¬ FlagsCase (checkCasing "Fix the parser".toList) := by
  have hflagged : FlagsCase (checkCasing "FIX THE PARSER".toList) := by decide +kernel
  have hsentence : Text.sentenceCase "FIX THE PARSER".toList = "Fix the parser".toList := by
    decide +kernel
  have hwords : casedWords "Fix the parser".toList =
      ["Fix".toList, "the".toList, "parser".toList] := by
    decide +kernel
  have hsubject : Text.subject? "FIX THE PARSER".toList = some "FIX THE PARSER".toList := by
    decide +kernel
  obtain ⟨-, -, haccepted⟩ := sentence_case_verdict hsubject hflagged
  rw [hsentence, hwords] at haccepted
  exact ⟨hflagged, haccepted (by decide) (by decide +kernel)⟩

/-- Both words after the first start with the pronoun, so that the suggestion is in title case. -/
theorem sentence_case_in_title_case :
    FlagsCase (checkCasing "FIX I, I".toList) ∧
      Text.sentenceCase "FIX I, I".toList = "Fix I, I".toList ∧
      FlagsCase (checkCasing "Fix I, I".toList) := by
  decide +kernel

end CommitGate.Policy
