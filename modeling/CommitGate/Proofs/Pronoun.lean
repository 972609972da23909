import CommitGate.Proofs.Sentence

/-!
# The pronoun

The search for the pronoun goes over a lowered text once, and a blank that ended one pronoun does not
introduce the next. Of small letters `i` that stand alone with single blanks between them, every
second one is therefore left as it is. All others are restored, so that the search misses none just
if no two of them share a blank.
-/

namespace CommitGate.Text

/-- A small `i` that stands alone: at the start or after a blank, and before a comma, a full stop, a
semicolon, a colon, a blank or the end. -/
structure LonePronoun (t : Text) (p : Nat) : Prop where
  /-- The letter. -/
  letter : t[p]? = some 'i'
  /-- What comes before it, if anything, is a blank. -/
  before : ∀ q c, p = q + 1 → t[q]? = some c → isBlank c = true
  /-- What comes after it, if anything, may follow the pronoun. -/
  after : ∀ c, t[p + 1]? = some c → c ∈ [',', '.', ';', ':'] ∨ isBlank c = true

variable {t rest : Text} {c : Char} {p : Nat}

theorem endsPronoun_iff : endsPronoun c = true ↔ c ∈ [',', '.', ';', ':'] ∨ isBlank c = true := by
  rw [endsPronoun, Bool.or_eq_true, decide_eq_true_iff]

theorem lonePronoun_iff : LonePronoun t p ↔ t[p]? = some 'i' ∧
    (p = 0 ∨ (t[p - 1]?).all isBlank = true) ∧ (t[p + 1]?).all endsPronoun = true := by
  have hbefore : (∀ q c, p = q + 1 → t[q]? = some c → isBlank c = true) ↔
      p = 0 ∨ (t[p - 1]?).all isBlank = true := by
    rw [Option.all_eq_true]
    cases p with
    | zero => exact iff_of_true (fun _ _ h => nomatch h) (.inl rfl)
    | succ q =>
      constructor
      · intro h
        exact .inr fun c hc => h q c rfl hc
      · rintro (hzero | h) q' c hq hc
        · cases hzero
        · cases hq
          exact h c hc
  have hafter : (∀ c, t[p + 1]? = some c → c ∈ [',', '.', ';', ':'] ∨ isBlank c = true) ↔
      (t[p + 1]?).all endsPronoun = true := by
    rw [Option.all_eq_true]
    exact forall₂_congr fun _ _ => endsPronoun_iff.symm
  rw [← hbefore, ← hafter]
  exact ⟨fun h => ⟨h.letter, h.before, h.after⟩, fun ⟨h, h', h''⟩ => ⟨h, h', h''⟩⟩

instance (t : Text) : DecidablePred (LonePronoun t) := fun _ => decidable_of_iff _ lonePronoun_iff.symm

/-! ## Which letters are restored -/

/-- A letter that stands alone is restored, unless the one two characters before it is. -/
def restored (t : Text) : Nat → Bool
  | 0 => LonePronoun t 0
  | 1 => LonePronoun t 1
  | p + 2 => LonePronoun t (p + 2) ∧ restored t p = false

/-- What stands at a position once the letters are restored. -/
def restoredChar? (t : Text) (p : Nat) : Option Char := if restored t p then some 'I' else t[p]?

/-- A pronoun may start at a position: nothing comes before it, or a blank that ended no pronoun. -/
structure MayStart (t : Text) (p : Nat) : Prop where
  /-- What comes before the position, if anything, is a blank. -/
  before : ∀ q c, p = q + 1 → t[q]? = some c → isBlank c = true
  /-- The blank ended no pronoun. -/
  free : ∀ q, p = q + 2 → restored t q = false

theorem restored_iff :
    restored t p = true ↔ LonePronoun t p ∧ ∀ q, p = q + 2 → restored t q = false := by
  match p with
  | 0 => simp [restored]
  | 1 => simp [restored]
  | p + 2 => simp [restored]

theorem letter_of_restored (h : restored t p = true) : t[p]? = some 'i' := (restored_iff.mp h).1.letter

theorem MayStart.of_restored (h : restored t p = true) : MayStart t p :=
  ⟨(restored_iff.mp h).1.before, (restored_iff.mp h).2⟩

theorem restored_eq_false_of_ne (hc : t[p]? = some c) (hne : c ≠ 'i') : restored t p = false := by
  rw [Bool.eq_false_iff]
  intro h
  exact hne (Option.some.inj (hc.symm.trans (letter_of_restored h)))

/-- Just after a letter that was restored no pronoun may start. -/
theorem MayStart.not_restored (h : MayStart t p) : ∀ q, p = q + 1 → restored t q = false := by
  intro q hq
  rw [Bool.eq_false_iff]
  intro hrestored
  have hblank := h.before q 'i' hq (letter_of_restored hrestored)
  exact absurd hblank (by decide)

/-! ## The search -/

/-- The search stands before a position of the text in some state, with the rest of the text ahead. -/
inductive StandsAt (t : Text) : PronounSearch → Nat → Text → Prop where
  /-- A pronoun may start at the position. -/
  | mayStart {p : Nat} {rest : Text} (ahead : ∀ k, t[p + k]? = rest[k]?) (start : MayStart t p) :
      StandsAt t .mayStart p rest
  /-- No pronoun may start at the position, and none was restored just before. -/
  | within {p : Nat} {rest : Text} (ahead : ∀ k, t[p + k]? = rest[k]?) (no_start : ¬ MayStart t p)
      (not_restored : ∀ q, p = q + 1 → restored t q = false) : StandsAt t .within p rest
  /-- A small `i` stands at the position, where a pronoun may start. -/
  | held {p : Nat} {rest : Text} (ahead : ∀ k, t[p + k]? = ('i' :: rest)[k]?) (start : MayStart t p) :
      StandsAt t .held p rest

/-- A character that is written out as it is takes the search one position on. -/
theorem StandsAt.next (ahead : ∀ k, t[p + k]? = (c :: rest)[k]?) (hno : restored t p = false)
    (hbefore : ∀ q, p = q + 1 → restored t q = false) :
    StandsAt t (if isBlank c then .mayStart else .within) (p + 1) rest := by
  have hc : t[p]? = some c := ahead 0
  have hrest : ∀ k, t[p + 1 + k]? = rest[k]? := by
    intro k
    rw [Nat.add_right_comm]
    exact ahead (k + 1)
  split_ifs with hblank
  · refine .mayStart hrest ⟨?_, ?_⟩
    · rintro q c' hq hc'
      obtain rfl : p = q := Nat.succ_injective hq
      rwa [← Option.some.inj (hc.symm.trans hc')]
    · intro q hq
      exact hbefore q (Nat.succ_injective hq)
  · refine .within hrest (fun h => hblank (h.before p c rfl hc)) ?_
    intro q hq
    rwa [← Nat.succ_injective hq]

theorem restoredChar?_of_restored (h : restored t p = true) : restoredChar? t p = some 'I' := if_pos h

theorem restoredChar?_of_not (h : restored t p = false) : restoredChar? t p = t[p]? :=
  if_neg (Bool.eq_false_iff.mp h)

theorem restoredChar?_eq_none (h : t[p]? = none) : restoredChar? t p = none := by
  have hno : restored t p = false := by
    rw [Bool.eq_false_iff]
    intro hrestored
    rw [letter_of_restored hrestored] at h
    cases h
  rw [restoredChar?_of_not hno, h]

/-- What is written at a position, and after it what is written from the next position on. -/
theorem getElem?_cons_eq {out : Text} {x : Char} (hx : restoredChar? t p = some x)
    (hout : ∀ k, out[k]? = restoredChar? t (p + 1 + k)) (k : Nat) :
    (x :: out)[k]? = restoredChar? t (p + k) := by
  cases k with
  | zero => exact hx.symm
  | succ k => rw [List.getElem?_cons_succ, hout, Nat.add_right_comm, Nat.add_assoc]

/-- Nothing is written past the end. -/
theorem getElem?_nil_eq (h : ∀ k, t[p + k]? = ([] : Text)[k]?) (k : Nat) :
    ([] : Text)[k]? = restoredChar? t (p + k) := by
  rw [restoredChar?_eq_none]
  · rfl
  · exact h k

/-- What stands after a small `i` is not restored, as it comes after no blank. -/
theorem restored_succ_eq_false (h : t[p]? = some 'i') : restored t (p + 1) = false := by
  rw [Bool.eq_false_iff]
  intro hrestored
  have hblank := (restored_iff.mp hrestored).1.before p 'i' rfl h
  exact absurd hblank (by decide)

/-- The search goes on two positions after a small `i` that was held, within the text, if the
character between ended a pronoun or is no blank. -/
theorem StandsAt.next_of_held (ahead : ∀ k, t[p + k]? = ('i' :: c :: rest)[k]?)
    (hc : restored t p = true ∨ isBlank c = false) : StandsAt t .within (p + 2) rest := by
  refine .within (fun k => ?_) (fun h => ?_) (fun q hq => ?_)
  · rw [Nat.add_assoc, Nat.add_comm 2 k]
    exact ahead (k + 2)
  · rcases hc with hrestored | hblank
    · rw [h.free p rfl] at hrestored
      cases hrestored
    · rw [h.before (p + 1) c rfl (ahead 1)] at hblank
      cases hblank
  · rw [← Nat.succ_injective hq]
    exact restored_succ_eq_false (ahead 0)

/-- Where a pronoun may start, a small `i` is restored just if a pronoun can end there. -/
theorem restored_iff_of_mayStart (start : MayStart t p) (hletter : t[p]? = some 'i') :
    restored t p = true ↔ ∀ c, t[p + 1]? = some c → endsPronoun c = true := by
  constructor
  · intro h c hc
    exact endsPronoun_iff.mpr ((restored_iff.mp h).1.after c hc)
  · intro h
    exact restored_iff.mpr
      ⟨⟨hletter, start.before, fun c hc => endsPronoun_iff.mp (h c hc)⟩, start.free⟩

/-- The search writes the letters that are restored in upper case, and all else as it is. -/
theorem getElem?_restorePronoun {search : PronounSearch} (h : StandsAt t search p rest) (k : Nat) :
    (restorePronoun search rest)[k]? = restoredChar? t (p + k) := by
  -- along the search, with where it stands as the invariant: a letter that is held is written only
  -- together with the character after it, two positions on
  fun_induction restorePronoun search rest generalizing p k with
  | case1 =>
    cases h with
    | held ahead start =>
      have hend : ∀ k, t[p + 1 + k]? = ([] : Text)[k]? := by
        intro k
        rw [Nat.add_right_comm]
        exact ahead (k + 1)
      have hrestored : restored t p = true := by
        refine (restored_iff_of_mayStart start (ahead 0)).mpr fun c hc => ?_
        cases (hend 0).symm.trans hc
      exact getElem?_cons_eq (restoredChar?_of_restored hrestored) (getElem?_nil_eq hend) k
  | case2 search hsearch =>
    cases h with
    | mayStart ahead start => exact getElem?_nil_eq ahead k
    | within ahead no_start not_restored => exact getElem?_nil_eq ahead k
    | held ahead start => exact absurd rfl hsearch
  | case3 rest ih =>
    cases h with
    | mayStart ahead start => exact ih (.held ahead start) k
  | case4 c rest hends ih =>
    cases h with
    | held ahead start =>
      have hrestored : restored t p = true := by
        refine (restored_iff_of_mayStart start (ahead 0)).mpr fun c' hc' => ?_
        rwa [← Option.some.inj ((ahead 1).symm.trans hc')]
      have hkept : restoredChar? t (p + 1) = some c :=
        (restoredChar?_of_not (restored_succ_eq_false (ahead 0))).trans (ahead 1)
      exact getElem?_cons_eq (restoredChar?_of_restored hrestored)
        (getElem?_cons_eq hkept (ih (.next_of_held ahead (.inl hrestored)))) k
  | case5 c rest hends ih =>
    cases h with
    | held ahead start =>
      have hno : restored t p = false := by
        rw [Bool.eq_false_iff, ne_eq, restored_iff_of_mayStart start (ahead 0)]
        exact fun h => hends (h c (ahead 1))
      have hblank : isBlank c = false := by
        rw [Bool.eq_false_iff]
        exact fun hblank => hends (endsPronoun_iff.mpr (.inr hblank))
      have hletter : restoredChar? t p = some 'i' := (restoredChar?_of_not hno).trans (ahead 0)
      have hkept : restoredChar? t (p + 1) = some c :=
        (restoredChar?_of_not (restored_succ_eq_false (ahead 0))).trans (ahead 1)
      exact getElem?_cons_eq hletter
        (getElem?_cons_eq hkept (ih (.next_of_held ahead (.inr hblank)))) k
  | case6 search c rest hletter hheld ih =>
    have hahead : ∀ k, t[p + k]? = (c :: rest)[k]? := by
      cases h with
      | mayStart ahead start => exact ahead
      | within ahead no_start not_restored => exact ahead
      | held ahead start => exact absurd rfl hheld
    have hno : restored t p = false ∧ ∀ q, p = q + 1 → restored t q = false := by
      cases h with
      | mayStart ahead start =>
        exact ⟨restored_eq_false_of_ne (ahead 0) (hletter rfl), start.not_restored⟩
      | within ahead no_start not_restored =>
        exact ⟨Bool.eq_false_iff.mpr fun h => no_start (.of_restored h), not_restored⟩
      | held ahead start => exact absurd rfl hheld
    have hkept : restoredChar? t p = some c := (restoredChar?_of_not hno.1).trans (hahead 0)
    exact getElem?_cons_eq hkept (ih (.next hahead hno.1 hno.2)) k

/-! ## Which letters are left -/

/-- The text with its pronouns restored, character by character. -/
theorem getElem?_restored (t : Text) (p : Nat) :
    (restorePronoun .mayStart t)[p]? = restoredChar? t p := by
  have hstart : MayStart t 0 := ⟨fun _ _ h => (nomatch h), fun _ h => (nomatch h)⟩
  have hahead : ∀ k, t[0 + k]? = t[k]? := fun k => by rw [Nat.zero_add]
  rw [getElem?_restorePronoun (.mayStart hahead hstart), Nat.zero_add]

/-- Restoring a pronoun changes nothing about what it is between. -/
theorem forall_restoredChar?_iff {P : Char → Prop} (hcase : P 'I' ↔ P 'i') (p : Nat) :
    (∀ c, restoredChar? t p = some c → P c) ↔ ∀ c, t[p]? = some c → P c := by
  cases hrestored : restored t p with
  | false => rw [restoredChar?_of_not hrestored]
  | true =>
    rw [restoredChar?_of_restored hrestored, letter_of_restored hrestored]
    simp only [Option.some.injEq, forall_eq']
    exact hcase

/-- A position that could be that of a pronoun: at the start or after a blank, and before a comma, a
full stop, a semicolon, a colon, a blank or the end. -/
structure StandsAlone (t : Text) (p : Nat) : Prop where
  /-- What comes before it, if anything, is a blank. -/
  before : ∀ q c, p = q + 1 → t[q]? = some c → isBlank c = true
  /-- What comes after it, if anything, may follow the pronoun. -/
  after : ∀ c, t[p + 1]? = some c → c ∈ [',', '.', ';', ':'] ∨ isBlank c = true

theorem lonePronoun_iff_standsAlone : LonePronoun t p ↔ t[p]? = some 'i' ∧ StandsAlone t p :=
  ⟨fun h => ⟨h.letter, h.before, h.after⟩, fun ⟨hletter, h⟩ => ⟨hletter, h.before, h.after⟩⟩

theorem standsAlone_restored_iff :
    StandsAlone (restorePronoun .mayStart t) p ↔ StandsAlone t p := by
  have hbefore : ∀ q, (∀ c, restoredChar? t q = some c → isBlank c = true) ↔
      ∀ c, t[q]? = some c → isBlank c = true := forall_restoredChar?_iff (by decide)
  have hafter := forall_restoredChar?_iff (t := t)
    (P := fun c => c ∈ [',', '.', ';', ':'] ∨ isBlank c = true) (by decide) (p + 1)
  constructor
  · rintro ⟨hb, ha⟩
    simp only [getElem?_restored] at hb ha
    exact ⟨fun q c hq => (hbefore q).mp (fun c => hb q c hq) c, hafter.mp ha⟩
  · rintro ⟨hb, ha⟩
    refine ⟨fun q c hq => ?_, ?_⟩
    · rw [getElem?_restored]
      exact (hbefore q).mpr (fun c => hb q c hq) c
    · simp only [getElem?_restored]
      exact hafter.mpr ha

/-- The letters that stand alone once the pronouns are restored are those that were not restored. -/
theorem lonePronoun_restored_iff :
    LonePronoun (restorePronoun .mayStart t) p ↔ LonePronoun t p ∧ restored t p = false := by
  have hletter : restoredChar? t p = some 'i' ↔ t[p]? = some 'i' ∧ restored t p = false := by
    cases hrestored : restored t p with
    | false => simp [restoredChar?_of_not hrestored]
    | true => simp [restoredChar?_of_restored hrestored]
  rw [lonePronoun_iff_standsAlone, lonePronoun_iff_standsAlone, getElem?_restored, hletter,
    standsAlone_restored_iff, and_right_comm]

/-- In sentence case, a small `i` that stands alone in the lowered subject is left just if the one
two characters before it stands alone too and was restored; all others are restored, and nothing else
changes. So there is none left just if no two of them share the blank between them. -/
theorem lone_pronoun_left_iff (s : Text) :
    let lowered := capitalized s.trim
    let sentence := sentenceCase s
    (∀ p, sentence[p]? =
      if LonePronoun lowered p ∧ ¬ LonePronoun sentence p then some 'I' else lowered[p]?) ∧
    (∀ p, LonePronoun sentence p ↔ LonePronoun lowered p ∧
      ∃ q, p = q + 2 ∧ LonePronoun lowered q ∧ ¬ LonePronoun sentence q) ∧
    ((∀ p, ¬ LonePronoun sentence p) ↔
      ∀ p, ¬ (LonePronoun lowered p ∧ LonePronoun lowered (p + 2))) := by
  intro lowered sentence
  have hleft : ∀ p, LonePronoun sentence p ↔ LonePronoun lowered p ∧ restored lowered p = false :=
    fun p => lonePronoun_restored_iff
  have hrestored : ∀ p, restored lowered p = true ↔
      LonePronoun lowered p ∧ ¬ LonePronoun sentence p := by
    intro p
    rw [hleft, not_and, Bool.not_eq_false]
    exact ⟨fun h => ⟨(restored_iff.mp h).1, fun _ => h⟩, fun ⟨hlone, h⟩ => h hlone⟩
  have hshared : ∀ p, LonePronoun sentence p ↔ LonePronoun lowered p ∧
      ∃ q, p = q + 2 ∧ LonePronoun lowered q ∧ ¬ LonePronoun sentence q := by
    intro p
    rw [hleft]
    refine and_congr_right fun hlone => ?_
    rw [← Bool.not_eq_true, restored_iff, not_and]
    simp only [hlone, forall_const, not_forall, Bool.not_eq_false, exists_prop, hrestored]
  refine ⟨fun p => ?_, hshared, ?_, ?_⟩
  · exact (getElem?_restored lowered p).trans (if_congr (hrestored p) rfl rfl)
  · intro hnone p ⟨hfirst, hsecond⟩
    exact hnone (p + 2) ((hshared (p + 2)).mpr ⟨hsecond, p, rfl, hfirst, hnone p⟩)
  · intro hnone p hp
    obtain ⟨hsecond, q, rfl, hfirst, -⟩ := (hshared p).mp hp
    exact hnone q ⟨hfirst, hsecond⟩

/-- Of two pronouns with one blank between them, the second is left. -/
theorem lone_pronoun_left_after_pronoun :
    sentenceCase "WHAT I I SAW".toList = "What I i saw".toList ∧
      LonePronoun (sentenceCase "WHAT I I SAW".toList) 7 := by
  decide +kernel

end CommitGate.Text
