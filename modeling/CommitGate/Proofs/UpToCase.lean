import CommitGate.Proofs.Pronoun

/-!
# Texts up to case

In ASCII every letter has one form in each case, so that a text is raised and lowered character by
character. Sentence case then changes nothing about a trimmed text but the case of its letters, and
depends on nothing else about it: two texts that differ in case alone are the same in sentence case.
Hence a text in sentence case stays as it is.
-/

namespace CommitGate.Text

variable {s t u v : Text} {c d : Char} {p : Nat}

/-! ## Characters of ASCII -/

theorem isAscii_toUpper (h : isAscii c = true) : isAscii c.toUpper = true :=
  of_isAscii (p := fun c => isAscii c.toUpper = true) (by decide +kernel) h

theorem isAscii_toLower (h : isAscii c = true) : isAscii c.toLower = true :=
  of_isAscii (p := fun c => isAscii c.toLower = true) (by decide +kernel) h

theorem toLower_toUpper (h : isAscii c = true) : c.toUpper.toLower = c.toLower :=
  of_isAscii (p := fun c => c.toUpper.toLower = c.toLower) (by decide +kernel) h

theorem toLower_toLower (h : isAscii c = true) : c.toLower.toLower = c.toLower :=
  of_isAscii (p := fun c => c.toLower.toLower = c.toLower) (by decide +kernel) h

theorem toUpper_toLower (h : isAscii c = true) : c.toLower.toUpper = c.toUpper :=
  of_isAscii (p := fun c => c.toLower.toUpper = c.toUpper) (by decide +kernel) h

theorem isBlank_toLower (h : isAscii c = true) : isBlank c.toLower = isBlank c :=
  of_isAscii (p := fun c => isBlank c.toLower = isBlank c) (by decide +kernel) h

theorem isUpper_toLower (h : isAscii c = true) : isUpper c.toLower = false :=
  of_isAscii (p := fun c => isUpper c.toLower = false) (by decide +kernel) h

/-! ## Raising and lowering -/

theorem toLower_eq_map (h : ∀ c ∈ t, isAscii c = true) : toLower t = t.map Char.toLower := by
  induction t with
  | nil => rfl
  | cons c t ih =>
    obtain ⟨hc, ht⟩ := List.forall_mem_cons.mp h
    have hform : lowerOf c = [c.toLower] := if_pos hc
    rw [toLower, List.flatMap_cons, hform, ← toLower, ih ht, List.map_cons, List.singleton_append]

theorem capitalized_cons (h : ∀ d ∈ c :: t, isAscii d = true) :
    capitalized (c :: t) = c.toUpper :: t.map Char.toLower := by
  obtain ⟨hc, ht⟩ := List.forall_mem_cons.mp h
  have hform : upperOf c = [c.toUpper] := if_pos hc
  rw [capitalized, hform, toLower_eq_map ht, List.singleton_append]

theorem isAscii_of_mem_capitalized (h : ∀ c ∈ t, isAscii c = true) :
    ∀ c ∈ capitalized t, isAscii c = true := by
  cases t with
  | nil => exact h
  | cons c t =>
    rw [capitalized_cons h]
    obtain ⟨hc, ht⟩ := List.forall_mem_cons.mp h
    refine List.forall_mem_cons.mpr ⟨isAscii_toUpper hc, ?_⟩
    intro d hd
    obtain ⟨d', hd', rfl⟩ := List.mem_map.mp hd
    exact isAscii_toLower (ht d' hd')

theorem map_toLower_capitalized (h : ∀ c ∈ t, isAscii c = true) :
    (capitalized t).map Char.toLower = t.map Char.toLower := by
  cases t with
  | nil => rfl
  | cons c t =>
    obtain ⟨hc, ht⟩ := List.forall_mem_cons.mp h
    have hrest : (t.map Char.toLower).map Char.toLower = t.map Char.toLower := by
      rw [List.map_map]
      exact List.map_congr_left fun d hd => toLower_toLower (ht d hd)
    rw [capitalized_cons h, List.map_cons, List.map_cons, toLower_toUpper hc, hrest]

/-- Texts that differ in case alone have the same capitalised form. -/
theorem capitalized_congr (hu : ∀ c ∈ u, isAscii c = true) (hv : ∀ c ∈ v, isAscii c = true)
    (h : u.map Char.toLower = v.map Char.toLower) : capitalized u = capitalized v := by
  cases u with
  | nil =>
    obtain rfl : v = [] := List.map_eq_nil_iff.mp h.symm
    rfl
  | cons c u =>
    cases v with
    | nil => cases h
    | cons d v =>
      obtain ⟨hfirst, hrest⟩ := List.cons.inj h
      have hupper : c.toUpper = d.toUpper := by
        rw [← toUpper_toLower (hu c List.mem_cons_self), hfirst,
          toUpper_toLower (hv d List.mem_cons_self)]
      rw [capitalized_cons hu, capitalized_cons hv, hupper, hrest]

theorem map_toLower_restorePronoun (t : Text) :
    (restorePronoun .mayStart t).map Char.toLower = t.map Char.toLower := by
  refine List.ext_getElem? fun p => ?_
  rw [List.getElem?_map, List.getElem?_map, getElem?_restored]
  cases hrestored : restored t p with
  | false => rw [restoredChar?_of_not hrestored]
  | true =>
    rw [restoredChar?_of_restored hrestored, letter_of_restored hrestored]
    decide

/-! ## Blanks around -/

theorem isBlank_eq_of_toLower_eq (hc : isAscii c = true) (hd : isAscii d = true)
    (h : c.toLower = d.toLower) : isBlank c = isBlank d := by
  rw [← isBlank_toLower hc, h, isBlank_toLower hd]

/-- A text that differs from a trimmed one in case alone is trimmed. -/
theorem Trimmed.of_map_toLower (hu : ∀ c ∈ u, isAscii c = true) (hv : ∀ c ∈ v, isAscii c = true)
    (h : u.map Char.toLower = v.map Char.toLower) (htrimmed : v.Trimmed) : u.Trimmed := by
  have hend : ∀ x y : Option Char, (∀ c, x = some c → c ∈ u) → (∀ d, y = some d → d ∈ v) →
      x.map Char.toLower = y.map Char.toLower → (∀ d, y = some d → isBlank d = false) →
      ∀ c, x = some c → isBlank c = false := by
    rintro x y hx hy hsame hblank c rfl
    obtain ⟨d, rfl, hlower⟩ := Option.map_eq_some_iff.mp hsame.symm
    rw [isBlank_eq_of_toLower_eq (hu c (hx c rfl)) (hv d (hy d rfl)) hlower.symm]
    exact hblank d rfl
  have hhead := congrArg List.head? h
  have hlast := congrArg List.getLast? h
  rw [List.head?_map, List.head?_map] at hhead
  rw [List.getLast?_map, List.getLast?_map] at hlast
  constructor
  · exact hend u.head? v.head? (fun _ => List.mem_of_head?) (fun _ => List.mem_of_head?) hhead
      htrimmed.head
  · exact hend u.getLast? v.getLast? (fun _ => List.mem_of_getLast?) (fun _ => List.mem_of_getLast?)
      hlast htrimmed.last

/-! ## Sentence case -/

theorem isAscii_of_mem_trim (h : ∀ c ∈ s, isAscii c = true) : ∀ c ∈ s.trim, isAscii c = true :=
  fun c hc => h c (trim_subset s hc)

theorem map_toLower_sentenceCase (h : ∀ c ∈ s, isAscii c = true) :
    (sentenceCase s).map Char.toLower = s.trim.map Char.toLower := by
  rw [sentenceCase, map_toLower_restorePronoun, map_toLower_capitalized (isAscii_of_mem_trim h)]

theorem isAscii_of_mem_sentenceCase (h : ∀ c ∈ s, isAscii c = true) :
    ∀ c ∈ sentenceCase s, isAscii c = true := by
  intro c hc
  rcases mem_restorePronoun hc with rfl | rfl | hc
  · decide
  · decide
  · exact isAscii_of_mem_capitalized (isAscii_of_mem_trim h) c hc

theorem sentenceCase_sentenceCase (h : ∀ c ∈ s, isAscii c = true) :
    sentenceCase (sentenceCase s) = sentenceCase s := by
  have htrim := isAscii_of_mem_trim h
  have hsentence := isAscii_of_mem_sentenceCase h
  have hsame := map_toLower_sentenceCase h
  have htrimmed : (sentenceCase s).trim = sentenceCase s :=
    trim_eq_self (.of_map_toLower hsentence htrim hsame (trimmed_trim s))
  calc sentenceCase (sentenceCase s)
      = restorePronoun .mayStart (capitalized (sentenceCase s)) := by rw [sentenceCase, htrimmed]
    _ = restorePronoun .mayStart (capitalized s.trim) := by
        rw [capitalized_congr hsentence htrim hsame]
    _ = sentenceCase s := rfl

/-- A capital in sentence case is the first character or a pronoun. -/
theorem capital_of_sentenceCase (h : ∀ c ∈ s, isAscii c = true) (hc : (sentenceCase s)[p]? = some c)
    (hupper : isUpper c = true) : p = 0 ∨ c = 'I' ∧ StandsAlone (sentenceCase s) p := by
  have htrim := isAscii_of_mem_trim h
  rw [sentenceCase, getElem?_restored] at hc
  cases hrestored : restored (capitalized s.trim) p with
  | true =>
    rw [restoredChar?_of_restored hrestored] at hc
    obtain ⟨-, halone⟩ := lonePronoun_iff_standsAlone.mp (restored_iff.mp hrestored).1
    exact .inr ⟨(Option.some.inj hc).symm, standsAlone_restored_iff.mpr halone⟩
  | false =>
    rw [restoredChar?_of_not hrestored] at hc
    cases p with
    | zero => exact .inl rfl
    | succ q =>
      -- after the first character all others were lowered
      cases hsubject : s.trim with
      | nil =>
        rw [hsubject] at hc
        cases hc
      | cons first rest =>
        rw [hsubject] at hc htrim
        rw [capitalized_cons htrim, List.getElem?_cons_succ, List.getElem?_map] at hc
        obtain ⟨d, hd, rfl⟩ := Option.map_eq_some_iff.mp hc
        have hascii := htrim d (List.mem_cons_of_mem first (List.mem_of_getElem? hd))
        rw [isUpper_toLower hascii] at hupper
        cases hupper

/-- A subject of ASCII in sentence case is the trimmed subject up to the case of its letters. It has
no capitals but the first character and pronouns, and it stays as it is in sentence case. -/
theorem sentenceCase_changes_case_only (h : ∀ c ∈ s, isAscii c = true) :
    (sentenceCase s).length = s.trim.length ∧
    (sentenceCase s).map Char.toLower = s.trim.map Char.toLower ∧
    (∀ p c, (sentenceCase s)[p]? = some c → isUpper c = true →
      p = 0 ∨ c = 'I' ∧ StandsAlone (sentenceCase s) p) ∧
    sentenceCase (sentenceCase s) = sentenceCase s := by
  have hsame := map_toLower_sentenceCase h
  have hlength := congrArg List.length hsame
  rw [List.length_map, List.length_map] at hlength
  exact ⟨hlength, hsame, fun _ _ => capital_of_sentenceCase h, sentenceCase_sentenceCase h⟩

/-- The pronoun that is not found the first time is not found the second time either. -/
theorem sentenceCase_changes_case_only_pronouns :
    sentenceCase "  WHAT I I SAW, I.\t".toList = "What I i saw, I.".toList ∧
    sentenceCase "What I i saw, I.".toList = "What I i saw, I.".toList := by
  have hascii : ∀ c ∈ "  WHAT I I SAW, I.\t".toList, isAscii c = true := by simp [isAscii]
  have hsentence : sentenceCase "  WHAT I I SAW, I.\t".toList = "What I i saw, I.".toList := by
    decide +kernel
  obtain ⟨-, -, -, hstable⟩ := sentenceCase_changes_case_only hascii
  rw [hsentence] at hstable
  exact ⟨hsentence, hstable⟩

end CommitGate.Text
