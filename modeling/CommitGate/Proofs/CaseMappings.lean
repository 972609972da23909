import CommitGate.Proofs.PlainReview

/-!
# The case mappings

What a case mapping gives is never a blank, unless the character is one, and no upper-case form has a
small `i` in it. Lower-casing changes nothing about what it gave before, and a text is its own
upper-case form just if all its characters are.

The tables are compared span by span: the images of a mapped span avoid another span if the two do
not overlap, or if the strides keep them apart.
-/

namespace CommitGate.Text

variable {c x : Char} {t : Text}

/-! ## Images of spans -/

/-- No image of the mapped span is a member of the other span. There are many pairs of spans to look
at, hence the comparisons in Booleans. -/
def MappedSpan.avoids (s : MappedSpan) (t : Span) : Bool :=
  Nat.blt (s.image + (s.source.last - s.source.first)) t.first || Nat.blt t.last s.image ||
    (Nat.beq s.source.first s.source.last || Nat.beq (s.source.stride % t.stride) 0) &&
      !Nat.beq (s.image % t.stride) (t.first % t.stride)

theorem MappedSpan.avoids_iff {s : MappedSpan} {t : Span} : s.avoids t = true ↔
    (s.image + (s.source.last - s.source.first) < t.first ∨ t.last < s.image) ∨
      (s.source.first = s.source.last ∨ s.source.stride % t.stride = 0) ∧
        s.image % t.stride ≠ t.first % t.stride := by
  simp only [avoids, Bool.or_eq_true, Bool.and_eq_true, Nat.blt_eq, Nat.beq_eq, Bool.not_eq_true',
    ← Bool.not_eq_true, ne_eq]

theorem Span.has_iff {s : Span} {n : Nat} :
    s.has n = true ↔ s.first ≤ n ∧ n ≤ s.last ∧ (n - s.first) % s.stride = 0 := by
  simp [Span.has, and_assoc]

theorem MappedSpan.has_image_eq_false {s : MappedSpan} {t : Span} {n : Nat}
    (havoids : s.avoids t = true) (hn : s.source.has n = true) :
    t.has (s.image + (n - s.source.first)) = false := by
  obtain ⟨hfirst, hlast, hstride⟩ := Span.has_iff.mp hn
  rw [Bool.eq_false_iff]
  intro himage
  obtain ⟨hfirst', hlast', hstride'⟩ := Span.has_iff.mp himage
  rcases avoids_iff.mp havoids with hoverlap | ⟨hstep, hresidue⟩
  · omega
  · -- the image keeps the residue of the first image, and members that of the first member
    have hmoved : t.stride ∣ n - s.source.first := by
      rcases hstep with hsingle | hstep
      · rw [show n - s.source.first = 0 by omega]
        exact Nat.dvd_zero _
      · exact Nat.dvd_trans (Nat.dvd_of_mod_eq_zero hstep) (Nat.dvd_of_mod_eq_zero hstride)
    obtain ⟨i, hi⟩ := hmoved
    obtain ⟨j, hj⟩ := Nat.dvd_of_mod_eq_zero hstride'
    have himages : s.image + t.stride * i = t.first + t.stride * j := by omega
    have hsame := congrArg (· % t.stride) himages
    simp only [Nat.add_mul_mod_self_left] at hsame
    exact hresidue hsame

theorem exists_mem_of_imageOf? {spans : List MappedSpan} {n code : Nat}
    (h : imageOf? spans n = some code) :
    ∃ s ∈ spans, s.source.has n = true ∧ code = s.image + (n - s.source.first) := by
  induction spans with
  | nil => cases h
  | cons s spans ih =>
    unfold imageOf? at h
    split_ifs at h with hbelow hhas
    · cases h
      exact ⟨s, List.mem_cons_self, hhas, rfl⟩
    · obtain ⟨s', hs', himage⟩ := ih h
      exact ⟨s', List.mem_cons_of_mem s hs', himage⟩

theorem imageOf?_eq_none {spans : List MappedSpan} {n : Nat}
    (h : ∀ s ∈ spans, s.source.has n = false) : imageOf? spans n = none := by
  induction spans with
  | nil => rfl
  | cons s spans ih =>
    unfold imageOf?
    rw [h s List.mem_cons_self, ih fun s' hs' => h s' (List.mem_cons_of_mem s hs')]
    simp

/-- A number that is no code point stands for the character zero. -/
theorem ofNat_eq_zero_or_toNat_ofNat (code : Nat) :
    Char.ofNat code = '\x00' ∨ (Char.ofNat code).toNat = code := by
  by_cases hvalid : code.isValidChar
  · rw [Char.ofNat, dif_pos hvalid]
    exact .inr rfl
  · rw [Char.ofNat, dif_neg hvalid]
    exact .inl rfl

/-- What a table gives for a character is the character itself, or satisfies what all images in the
table do: those in the sequences, those in no span that the mapped spans avoid, and the character
zero. -/
theorem forall_mem_mapCase {sequences : List (Nat × List Nat)} {spans : List MappedSpan}
    {avoided : List Span} {p : Char → Prop} (hzero : p '\x00')
    (hsequences : ∀ entry ∈ sequences, ∀ code ∈ entry.2, p (Char.ofNat code))
    (hspans : spans.all (fun s => avoided.all s.avoids) = true)
    (hp : ∀ c : Char, (∀ s ∈ avoided, s.has c.toNat = false) → p c)
    (h : x ∈ mapCase sequences spans c) : p x ∨ mapCase sequences spans c = [x] ∧ x = c := by
  unfold mapCase at h ⊢
  split at h
  next codes hcodes =>
    obtain ⟨code, hcode, rfl⟩ := List.mem_map.mp h
    exact .inl (hsequences _ (mem_of_lookup_eq_some hcodes) code hcode)
  next hnone =>
    split at h
    next code hcode =>
      left
      obtain ⟨s, hs, hhas, rfl⟩ := exists_mem_of_imageOf? hcode
      rw [List.mem_singleton.mp h]
      rcases ofNat_eq_zero_or_toNat_ofNat (s.image + (c.toNat - s.source.first)) with hchar | hchar
      · rwa [hchar]
      · apply hp
        intro t ht
        rw [hchar]
        exact MappedSpan.has_image_eq_false (List.all_eq_true.mp (List.all_eq_true.mp hspans s hs) t ht)
          hhas
    next himage =>
      right
      rw [List.mem_singleton.mp h]
      exact ⟨rfl, rfl⟩

/-! ## Blanks -/

/-- The blanks. -/
def blankSpans : List Span := [
  ⟨0x09, 0x0D, 1⟩, ⟨0x20, 0x20, 1⟩, ⟨0x85, 0x85, 1⟩, ⟨0xA0, 0xA0, 1⟩, ⟨0x1680, 0x1680, 1⟩,
  ⟨0x2000, 0x200A, 1⟩, ⟨0x2028, 0x2029, 1⟩, ⟨0x202F, 0x202F, 1⟩, ⟨0x205F, 0x205F, 1⟩,
  ⟨0x3000, 0x3000, 1⟩]

theorem isBlank_eq_false_of_spans (h : ∀ s ∈ blankSpans, s.has c.toNat = false) :
    isBlank c = false := by
  simp [blankSpans, Span.has] at h
  simp [isBlank]
  omega

/-- An upper-case form is no small `i`, and no blank unless the character is one. -/
theorem of_mem_upperOf (hblank : isBlank c = false) (h : x ∈ upperOf c) :
    isBlank x = false ∧ x ≠ 'i' := by
  unfold upperOf at h
  split_ifs at h with hascii
  · rw [List.mem_singleton.mp h]
    exact of_isAscii (p := fun c => isBlank c = false → isBlank c.toUpper = false ∧ c.toUpper ≠ 'i')
      (by decide +kernel) hascii hblank
  · have hspans : ∀ c : Char, (∀ s ∈ ⟨0x69, 0x69, 1⟩ :: blankSpans, s.has c.toNat = false) →
        isBlank c = false ∧ c ≠ 'i' := by
      intro c hc
      rw [List.forall_mem_cons] at hc
      refine ⟨isBlank_eq_false_of_spans hc.2, ?_⟩
      rintro rfl
      exact absurd hc.1 (by decide)
    rcases forall_mem_mapCase (by decide) (by decide +kernel) (by decide +kernel) hspans h with
      himage | ⟨-, rfl⟩
    · exact himage
    · refine ⟨hblank, ?_⟩
      rintro rfl
      exact hascii rfl

theorem isBlank_of_mem_lowerOf (h : x ∈ lowerOf c) : isBlank x = false ∨ x = c := by
  unfold lowerOf at h
  split_ifs at h with hascii
  · rw [List.mem_singleton.mp h]
    exact of_isAscii (p := fun c => isBlank c.toLower = false ∨ c.toLower = c) (by decide +kernel)
      hascii
  · rcases forall_mem_mapCase (by decide) (by decide +kernel) (by decide +kernel)
      (fun c hc => isBlank_eq_false_of_spans hc) h with himage | ⟨-, hx⟩
    · exact .inl himage
    · exact .inr hx

/-! ## Forms that stay -/

/-- The characters that are not their own lower-case form. -/
def loweredSpans : List Span :=
  ⟨0x41, 0x5A, 1⟩ :: ⟨0x130, 0x130, 1⟩ :: lowerSpans.map MappedSpan.source

theorem lowerOf_eq_self (h : ∀ s ∈ loweredSpans, s.has c.toNat = false) : lowerOf c = [c] := by
  unfold loweredSpans at h
  rw [List.forall_mem_cons, List.forall_mem_cons] at h
  obtain ⟨hupper, hsequence, hspans⟩ := h
  unfold lowerOf
  split_ifs with hascii
  · exact of_isAscii (p := fun c => (⟨0x41, 0x5A, 1⟩ : Span).has c.toNat = false →
      [c.toLower] = [c]) (by decide +kernel) hascii hupper
  · have hne : c.toNat ≠ 0x130 := by
      intro heq
      rw [heq] at hsequence
      exact absurd hsequence (by decide)
    have hlookup : lowerSequences.lookup c.toNat = none := by
      rw [lowerSequences, List.lookup_cons, beq_false_of_ne hne, List.lookup_nil]
    have himage : imageOf? lowerSpans c.toNat = none :=
      imageOf?_eq_none fun s hs => hspans _ (List.mem_map_of_mem hs)
    rw [mapCase, hlookup]
    simp only [himage]

/-- Lower-casing changes nothing about a character that it gave. -/
theorem lowerOf_of_mem (h : x ∈ lowerOf c) : lowerOf x = [x] := by
  have hmem := h
  unfold lowerOf at h
  split_ifs at h with hascii
  · rw [List.mem_singleton.mp h]
    exact of_isAscii (p := fun c => lowerOf c.toLower = [c.toLower]) (by decide +kernel) hascii
  · rcases forall_mem_mapCase (by decide) (by decide +kernel) (by decide +kernel)
      (fun c hc => lowerOf_eq_self hc) h with himage | ⟨hself, rfl⟩
    · exact himage
    · rw [lowerOf, if_neg hascii, hself]

theorem lowerOf_of_mem_toLower (h : x ∈ toLower t) : lowerOf x = [x] := by
  obtain ⟨c, -, hx⟩ := List.mem_flatMap.mp h
  exact lowerOf_of_mem hx

theorem upperOf_ne_nil (c : Char) : upperOf c ≠ [] := by
  unfold upperOf
  split_ifs with hascii
  · exact List.cons_ne_nil _ _
  · unfold mapCase
    split
    next codes hcodes =>
      have hne : ∀ entry ∈ upperSequences, entry.2 ≠ [] := by decide +kernel
      exact List.map_eq_nil_iff.not.mpr (hne _ (mem_of_lookup_eq_some hcodes))
    next => split <;> exact List.cons_ne_nil _ _

theorem length_le_length_toUpper (t : Text) : t.length ≤ (toUpper t).length := by
  induction t with
  | nil => exact Nat.le_refl 0
  | cons c rest ih =>
    have hpos : 0 < (upperOf c).length := List.length_pos_iff.mpr (upperOf_ne_nil c)
    rw [toUpper, List.flatMap_cons, List.length_append, List.length_cons]
    rw [toUpper] at ih
    omega

/-- A text is its own upper-case form just if its first character and the rest are. -/
theorem toUpper_cons_eq_self_iff :
    toUpper (c :: t) = c :: t ↔ upperOf c = [c] ∧ toUpper t = t := by
  rw [toUpper, List.flatMap_cons, ← toUpper]
  constructor
  · intro h
    obtain ⟨first, others, hupper⟩ := List.exists_cons_of_ne_nil (upperOf_ne_nil c)
    rw [hupper, List.cons_append, List.cons.injEq] at h
    obtain ⟨rfl, hrest⟩ := h
    -- a form of several characters would make the text longer
    have hlength := congrArg List.length hrest
    rw [List.length_append] at hlength
    have hle := length_le_length_toUpper t
    obtain rfl : others = [] := List.length_eq_zero_iff.mp (by omega)
    exact ⟨hupper, hrest⟩
  · rintro ⟨hc, ht⟩
    rw [hc, ht, List.singleton_append]

end CommitGate.Text
