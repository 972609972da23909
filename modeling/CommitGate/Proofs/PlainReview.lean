import CommitGate.Proofs.Plain
import CommitGate.Proofs.Rules

/-!
# The review of a plain message

A diagnostic is made of fixed texts and of parts of the message, some of them in another case. No
case mapping leads to an escape character, so that a message without one has diagnostics without
one.
-/

namespace CommitGate

namespace Text

/-! ## Case -/

/-- The images of a table are no smaller than the least image of its spans. -/
theorem le_of_imageOf? {spans : List MappedSpan} {low n code : Nat}
    (hlow : ∀ s ∈ spans, low ≤ s.image) (h : imageOf? spans n = some code) : low ≤ code := by
  induction spans with
  | nil => cases h
  | cons s spans ih =>
    have hs := hlow s List.mem_cons_self
    unfold imageOf? at h
    split_ifs at h
    · cases h
      omega
    · exact ih (fun s' hs' => hlow s' (List.mem_cons_of_mem s hs')) h

theorem mem_of_lookup_eq_some {table : List (Nat × List Nat)} {n : Nat} {codes : List Nat}
    (h : table.lookup n = some codes) : (n, codes) ∈ table := by
  obtain ⟨before, after, rfl, -⟩ := List.lookup_eq_some_iff.mp h
  simp

/-- A code point above the control characters stands for none of them, also if it is not the code
point of a character. -/
theorem ofNat_ne_escape {code : Nat} (h : 0x20 ≤ code) : Char.ofNat code ≠ '\x1b' := by
  intro heq
  have hcode : (Char.ofNat code).toNat = 0x1b := by rw [heq]; rfl
  by_cases hvalid : code.isValidChar
  · rw [Char.ofNat, dif_pos hvalid] at hcode
    have hsame : code = 0x1b := hcode
    omega
  · rw [Char.ofNat, dif_neg hvalid] at hcode
    cases hcode

/-- A case mapping whose tables name no control characters keeps a character from becoming one. -/
theorem plain_mapCase {sequences : List (Nat × List Nat)} {spans : List MappedSpan} {c : Char}
    (hsequences : ∀ entry ∈ sequences, ∀ code ∈ entry.2, 0x20 ≤ code)
    (hspans : ∀ s ∈ spans, 0x20 ≤ s.image) (hc : c ≠ '\x1b') :
    (mapCase sequences spans c).Plain := by
  unfold mapCase
  split
  next codes hcodes =>
    intro hmem
    obtain ⟨code, hcode, heq⟩ := List.mem_map.mp hmem
    exact ofNat_ne_escape (hsequences _ (mem_of_lookup_eq_some hcodes) code hcode) heq
  next =>
    split
    next code hcode => simp [ofNat_ne_escape (le_of_imageOf? hspans hcode)]
    next => simp [hc]

/-- What holds of the first 128 characters holds of every character of ASCII. -/
theorem of_isAscii {p : Char → Prop} (h : ∀ n < 0x80, p (Char.ofNat n)) {c : Char}
    (hc : isAscii c = true) : p c := by
  rw [← Char.ofNat_toNat c]
  exact h c.toNat (by simpa [isAscii] using hc)

theorem plain_upperOf {c : Char} (hc : c ≠ '\x1b') : (upperOf c).Plain := by
  unfold upperOf
  split_ifs with hascii
  · have hupper : c ≠ '\x1b' → c.toUpper ≠ '\x1b' :=
      of_isAscii (p := fun c => c ≠ '\x1b' → c.toUpper ≠ '\x1b') (by decide) hascii
    simp [hupper hc]
  · exact plain_mapCase (by decide +kernel) (by decide +kernel) hc

theorem plain_lowerOf {c : Char} (hc : c ≠ '\x1b') : (lowerOf c).Plain := by
  unfold lowerOf
  split_ifs with hascii
  · have hlower : c ≠ '\x1b' → c.toLower ≠ '\x1b' :=
      of_isAscii (p := fun c => c ≠ '\x1b' → c.toLower ≠ '\x1b') (by decide) hascii
    simp [hlower hc]
  · exact plain_mapCase (by decide +kernel) (by decide +kernel) hc

theorem plain_toLower {t : Text} (h : t.Plain) : (toLower t).Plain :=
  plain_flatMap_iff.mpr fun _ hc => plain_lowerOf fun heq => h (heq ▸ hc)

theorem plain_capitalized {t : Text} (h : t.Plain) : (capitalized t).Plain := by
  cases t with
  | nil => exact plain_nil
  | cons c rest =>
    obtain ⟨hc, hrest⟩ := plain_cons_iff.mp h
    exact plain_append_iff.mpr ⟨plain_upperOf hc, plain_toLower hrest⟩

theorem plain_restorePronoun {state : PronounSearch} {t : Text} (h : t.Plain) :
    (restorePronoun state t).Plain := by
  fun_induction restorePronoun state t with
  | case1 => decide
  | case2 => exact plain_nil
  | case3 rest ih => exact ih (plain_cons_iff.mp h).2
  | case4 c rest hend ih =>
    obtain ⟨hc, hrest⟩ := plain_cons_iff.mp h
    simp [hc, ih hrest]
  | case5 c rest hend ih =>
    obtain ⟨hc, hrest⟩ := plain_cons_iff.mp h
    simp [hc, ih hrest]
  | case6 state c rest _ _ ih =>
    obtain ⟨hc, hrest⟩ := plain_cons_iff.mp h
    exact plain_cons_iff.mpr ⟨hc, ih hrest⟩

theorem plain_trim {t : Text} (h : t.Plain) : t.trim.Plain := by
  have hstart : t.trimStart.Plain := h.of_subset (List.dropWhile_subset _)
  exact hstart.of_subset (List.rdropWhile_prefix isBlank _).subset

theorem plain_sentenceCase {t : Text} (h : t.Plain) : (sentenceCase t).Plain :=
  plain_restorePronoun (plain_capitalized (plain_trim h))

end Text

/-! ## Rules -/

/-- The diagnostics of the rules have a code, a hint and a help. -/
theorem Diagnostic.plain_of_parts {description code hint : Text} {location : Option Location}
    {help : Help} {note : Option Text} (hdescription : description.Plain) (hcode : code.Plain)
    (hhint : hint.Plain) (hhelp : help.Plain) (hnote : ∀ t, note = some t → t.Plain) :
    Diagnostic.Plain ⟨description, some code, some hint, location, some help, note⟩ where
  description := hdescription
  code := by rintro t ⟨⟩; exact hcode
  hint := by rintro t ⟨⟩; exact hhint
  help := by rintro h ⟨⟩; exact hhelp
  note := hnote

namespace Policy

variable {m : Text} {d : Diagnostic}

theorem plain_of_getElem?_lines (hm : m.Plain) {row : Nat} {line : Text}
    (h : m.lines[row]? = some line) : line.Plain :=
  Text.plain_of_mem_lines hm line (List.mem_of_getElem? h)

theorem plain_lineTooLong (row length : Nat) : (lineTooLong row length).Plain := by
  refine Diagnostic.plain_of_parts (by decide) (by decide) ?_ ?_ (by simp)
  · by_cases hrow : row = 0
    · rw [if_pos hrow]; decide
    · rw [if_neg hrow]; decide
  · by_cases hrow : row = 0
    · rw [if_pos hrow]; simp
    · rw [if_neg hrow]; simp

theorem plain_badEnding {subject : Text} {ending : Char} (hsubject : subject.Plain)
    (hending : ending ≠ '\x1b') : (badEnding subject ending).Plain := by
  have hcut := hsubject.of_subset (List.dropLast_subset subject)
  exact Diagnostic.plain_of_parts (by simp [hending]) (by decide) (by simp [hending])
    (by simp [hcut]) (by simp)

theorem plain_secondLineNotEmpty {subject line : Text} (hsubject : subject.Plain)
    (hline : line.Plain) : (secondLineNotEmpty subject line).Plain := by
  refine Diagnostic.plain_of_parts (by decide) (by decide) ?_ ?_ (by simp)
  · by_cases hblank : line.isAllBlank = true
    · rw [if_pos hblank]; decide
    · rw [if_neg hblank]; decide
  · by_cases hblank : line.isAllBlank = true
    · rw [if_pos hblank]; simp
    · rw [if_neg hblank]; simp [Text.plain_joinLines_iff, hsubject, hline]

theorem plain_wrongCase {description hint subject : Text} (hdescription : description.Plain)
    (hhint : hint.Plain) (hsubject : subject.Plain) :
    (wrongCase description hint subject).Plain :=
  Diagnostic.plain_of_parts hdescription (by decide) hhint
    (by simp [Text.plain_sentenceCase hsubject]) (by simp)

theorem plain_titleCaseNote : titleCaseNote.Plain := by
  -- a long literal is much dearer to look through than its parts
  unfold titleCaseNote
  simp only [String.toList_append, Text.plain_append_iff]
  decide +kernel

theorem plain_lowStart {first : Char} {rest : Text} (h : Text.Plain (first :: rest)) :
    (lowStart first rest).Plain := by
  obtain ⟨hfirst, hrest⟩ := Text.plain_cons_iff.mp h
  exact Diagnostic.plain_of_parts (by decide) (by decide) (by decide)
    (by simp [Text.plain_upperOf hfirst, hrest]) (by simp)

theorem plain_untrimmed {row start stop : Nat} {hint help : Text} (hhint : hint.Plain)
    (hhelp : help.Plain) : (untrimmed row start stop hint help).Plain :=
  Diagnostic.plain_of_parts (by decide) (by decide) hhint (by simpa using hhelp) (by simp)

theorem plain_blankLine (row : Nat) (line : Text) : (blankLine row line).Plain :=
  Diagnostic.plain_of_parts (by decide) (by decide) (by decide) (by simp) (by simp)

theorem plain_of_mem_checkEnding (hm : m.Plain) (hd : d ∈ checkEnding m) : d.Plain := by
  obtain ⟨subject, ending, hsubject, hlast, -, rfl⟩ := mem_checkEnding_iff.mp hd
  have hplain := plain_of_getElem?_lines hm hsubject
  refine plain_badEnding hplain ?_
  rintro rfl
  exact hplain (List.mem_of_getLast? hlast)

theorem plain_of_mem_checkCasing (hm : m.Plain) (hd : d ∈ checkCasing m) : d.Plain := by
  obtain ⟨subject, hsubject, hcase⟩ := mem_checkCasing_iff.mp hd
  have hplain := plain_of_getElem?_lines hm hsubject
  rcases hcase with ⟨-, rfl⟩ | ⟨-, rfl⟩ | ⟨first, rest, hlow, rfl⟩
  · exact plain_wrongCase (by decide) (by decide) hplain
  · have hbase : (wrongCase "Subject line must not be in title-case".toList
        "subject in title case".toList subject).Plain :=
      plain_wrongCase (by decide) (by decide) hplain
    refine { hbase with note := fun t ht => ?_ }
    rw [← Option.some.inj ht]
    exact plain_titleCaseNote
  · rw [eq_of_casingOf_eq_lowStart hlow] at hplain
    exact plain_lowStart hplain

/-- The diagnostics of a plain message are plain. -/
theorem plain_of_mem_review (hm : m.Plain) (hd : d ∈ review m) : d.Plain := by
  rcases mem_review_iff.mp hd with hd | hd | hd | hd | hd | hd
  · obtain ⟨row, line, -, -, rfl⟩ := mem_checkLineLength_iff.mp hd
    exact plain_lineTooLong row line.length
  · exact plain_of_mem_checkEnding hm hd
  · obtain ⟨subject, line, hsubject, hline, -, rfl⟩ := mem_checkSecondLine_iff.mp hd
    exact plain_secondLineNotEmpty (plain_of_getElem?_lines hm hsubject)
      (plain_of_getElem?_lines hm hline)
  · exact plain_of_mem_checkCasing hm hd
  · obtain ⟨row, line, -, -, -, -, hside⟩ := mem_checkMargins_iff.mp hd
    rcases hside with hside | hside
    · obtain ⟨-, rfl⟩ := mem_leadingBlanks_iff.mp hside
      exact plain_untrimmed (by decide) (by decide)
    · obtain ⟨-, rfl⟩ := mem_trailingBlanks_iff.mp hside
      exact plain_untrimmed (by decide) (by decide)
  · obtain ⟨row, line, -, -, rfl⟩ := mem_checkBlankLines_iff.mp hd
    exact plain_blankLine row line

end Policy

/-- The report on a plain message is plain. -/
theorem Report.plain_review (commit : Option Text) {m : Text} (hm : m.Plain) :
    (Report.mk commit m (Policy.review m)).Plain :=
  ⟨hm, fun _ hd => Policy.plain_of_mem_review hm hd⟩

end CommitGate
