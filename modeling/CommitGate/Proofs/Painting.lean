import CommitGate.Proofs.Layout

/-!
# Painting and its undoing

Painting adds control sequences to a text and nothing else. Where the text itself holds no escape
character, the control sequences can be told from it and taken out again, which leaves the text as
it is without colours.
-/

namespace CommitGate

namespace Text

/-! ## Taking control sequences out -/

/-- The length of the control sequence that a text starts with: an escape character, a bracket,
digits and an `m`. It is zero if the text does not start with one. -/
def sequenceLength : Text → Nat
  | '\x1b' :: '[' :: rest =>
    let digits := rest.takeWhile Char.isDigit
    if digits ≠ [] ∧ (rest.drop digits.length).head? = some 'm' then digits.length + 3 else 0
  | _ => 0

/-- A text without its control sequences, when so many characters of one are still to come. -/
def unstyledAfter : (pending : Nat) → Text → Text
  | _, [] => []
  | pending + 1, _ :: rest => unstyledAfter pending rest
  | 0, c :: rest =>
    match sequenceLength (c :: rest) with
    | 0 => c :: unstyledAfter 0 rest
    | pending + 1 => unstyledAfter pending rest

/-- A text without its control sequences. -/
def unstyled (t : Text) : Text := unstyledAfter 0 t

/-- A text without escape characters. -/
def Plain (t : Text) : Prop := '\x1b' ∉ t

instance (t : Text) : Decidable t.Plain := inferInstanceAs (Decidable (¬ _ ∈ t))

variable {s t : Text}

/-! ### Plain texts -/

@[simp] theorem plain_nil : Plain [] := List.not_mem_nil

@[simp] theorem plain_cons_iff {c : Char} : Plain (c :: t) ↔ c ≠ '\x1b' ∧ t.Plain := by
  simp [Plain, eq_comm]

@[simp] theorem plain_append_iff : Plain (s ++ t) ↔ s.Plain ∧ t.Plain := by
  simp [Plain]

theorem plain_flatMap_iff {α : Type} {f : α → Text} {xs : List α} :
    Plain (xs.flatMap f) ↔ ∀ x ∈ xs, Plain (f x) := by
  simp [Plain]

/-- What is made of the characters of a plain text is plain. -/
theorem Plain.of_subset (h : t.Plain) (hs : s ⊆ t) : s.Plain := fun hmem => h (hs hmem)

/-! ### One piece at a time -/

theorem unstyledAfter_eq (n : Nat) (t : Text) : unstyledAfter n t = unstyled (t.drop n) := by
  induction t generalizing n with
  | nil => cases n <;> rfl
  | cons c rest ih =>
    cases n with
    | zero => rfl
    | succ n => rw [unstyledAfter, List.drop_succ_cons, ih]

theorem sequenceLength_of_ne {c : Char} (h : c ≠ '\x1b') (rest : Text) :
    sequenceLength (c :: rest) = 0 := by
  unfold sequenceLength
  split
  next heq => exact absurd (List.cons.inj heq).1 h
  next => rfl

theorem unstyled_cons_of_ne {c : Char} (h : c ≠ '\x1b') (rest : Text) :
    unstyled (c :: rest) = c :: unstyled rest := by
  rw [unstyled, unstyledAfter, sequenceLength_of_ne h]
  rfl

/-- Text without escape characters stays as it is, whatever follows it. -/
theorem unstyled_append_of_plain (h : s.Plain) (t : Text) :
    unstyled (s ++ t) = s ++ unstyled t := by
  induction s with
  | nil => rfl
  | cons c s ih =>
    obtain ⟨hc, hs⟩ := plain_cons_iff.mp h
    rw [List.cons_append, unstyled_cons_of_ne hc, ih hs, List.cons_append]

/-- The digits of a control sequence are those of its number, since an `m` follows them. -/
theorem takeWhile_isDigit_ofNat_append (n : Nat) (t : Text) :
    (ofNat n ++ 'm' :: t).takeWhile Char.isDigit = ofNat n := by
  have hdigits : ∀ c ∈ ofNat n, c.isDigit = true := fun _ hc =>
    Nat.isDigit_of_mem_toDigits (by decide) (by decide) hc
  rw [List.takeWhile_append_of_pos hdigits, List.takeWhile_cons_of_neg (by decide), List.append_nil]

theorem sequenceLength_controlSequence_append (n : Nat) (t : Text) :
    sequenceLength (controlSequence n ++ t) = (controlSequence n).length := by
  have hshape : controlSequence n ++ t = '\x1b' :: '[' :: (ofNat n ++ 'm' :: t) := by
    simp [controlSequence]
  have hne : ofNat n ≠ [] := Nat.toDigits_ne_nil
  rw [hshape, sequenceLength]
  simp [takeWhile_isDigit_ofNat_append, hne, controlSequence]

theorem unstyled_of_sequenceLength {n : Nat} (h : sequenceLength t = n + 1) :
    unstyled t = unstyled (t.drop (n + 1)) := by
  cases t with
  | nil => cases h
  | cons c rest =>
    rw [unstyled, unstyledAfter, h]
    exact unstyledAfter_eq n rest

/-- A control sequence disappears, whatever follows it. -/
theorem unstyled_controlSequence_append (n : Nat) (t : Text) :
    unstyled (controlSequence n ++ t) = unstyled t := by
  obtain ⟨k, hk⟩ : ∃ k, (controlSequence n).length = k + 1 := ⟨_, rfl⟩
  have hlength := sequenceLength_controlSequence_append n t
  rw [hk] at hlength
  rw [unstyled_of_sequenceLength hlength, ← hk, List.drop_left]

end Text

/-! ## Painted text -/

/-- A text that is another one with control sequences put in between. What follows it does not
matter, so that styled texts can be put together. -/
def Styled (s t : Text) : Prop := ∀ rest, Text.unstyled (s ++ rest) = t ++ Text.unstyled rest

namespace Styled

variable {s t s' t' : Text}

theorem unstyled_eq (h : Styled s t) : s.unstyled = t := by
  have hnil := h []
  rwa [List.append_nil, show Text.unstyled [] = [] from rfl, List.append_nil] at hnil

theorem of_plain (h : t.Plain) : Styled t t := fun rest => Text.unstyled_append_of_plain h rest

theorem controlSequence (n : Nat) : Styled (controlSequence n) [] :=
  Text.unstyled_controlSequence_append n

theorem append (h : Styled s t) (h' : Styled s' t') : Styled (s ++ s') (t ++ t') := fun rest => by
  rw [List.append_assoc, h, h', List.append_assoc]

theorem flatMap {α : Type} {f g : α → Text} {xs : List α} (h : ∀ x ∈ xs, Styled (f x) (g x)) :
    Styled (xs.flatMap f) (xs.flatMap g) := by
  induction xs with
  | nil => exact of_plain Text.plain_nil
  | cons x xs ih =>
    rw [List.flatMap_cons, List.flatMap_cons]
    exact (h x List.mem_cons_self).append (ih fun y hy => h y (List.mem_cons_of_mem x hy))

theorem piece {p : Piece} (h : (p.paint false).Plain) : Styled (p.paint true) (p.paint false) := by
  cases p with
  | plain t => exact of_plain h
  | styled styles t =>
    have hon : Styled (styles.flatMap fun s => CommitGate.controlSequence s.number) [] := by
      have hnil : styles.flatMap (fun _ => ([] : Text)) = [] :=
        List.flatMap_eq_nil_iff.mpr fun _ _ => rfl
      rw [← hnil]
      exact flatMap fun s _ => controlSequence s.number
    have hall := (hon.append (of_plain h)).append (controlSequence 0)
    simpa [Piece.paint, resetSequence] using hall

end Styled

/-- Colours only add control sequences to a text without escape characters. -/
theorem styled_paint {pieces : List Piece} (h : (paint false pieces).Plain) :
    Styled (paint true pieces) (paint false pieces) :=
  Styled.flatMap fun _ hp => Styled.piece (Text.plain_flatMap_iff.mp h _ hp)

end CommitGate
