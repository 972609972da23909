import CommitGate.Text.Quoted
import Mathlib.Data.List.Basic
import Mathlib.Data.List.Pairwise

/-!
# Texts without their quoted spans

A text has no quoted span if none of its opening delimiters is followed by the delimiter that closes
it. What is left of a text without its quoted spans is such a text, as an opening delimiter is only
kept where its closing delimiter does not come again. A text is read up to its first span as it is,
and after the span as if it started there. A text without delimiters opens and closes nothing,
wherever it stands.
-/

namespace CommitGate.Text

variable {p rest t v x : Text} {a c o : Char}

/-- No opening delimiter is followed, at once or later, by the delimiter that closes it. -/
def Spanless (t : Text) : Prop := t.Pairwise fun o c => closer? o ≠ some c

instance : DecidablePred Spanless := fun t =>
  inferInstanceAs (Decidable (t.Pairwise fun o c => closer? o ≠ some c))

/-- No opening delimiter in the first of two texts is followed by the delimiter that closes it,
neither there nor in the second text, which comes after it. -/
structure OpensNoSpan (p rest : Text) : Prop where
  /-- No span opens and ends in the first text. -/
  within : p.Spanless
  /-- No span opens in the first text and ends in the second. -/
  across : ∀ o ∈ p, ∀ c ∈ rest, closer? o ≠ some c

instance (p rest : Text) : Decidable (OpensNoSpan p rest) :=
  decidable_of_iff (p.Spanless ∧ (p.all fun o => rest.all fun c => closer? o ≠ some c) = true) <| by
    simp only [List.all_eq_true, decide_eq_true_eq]
    exact ⟨fun h => ⟨h.1, h.2⟩, fun h => ⟨h.within, h.across⟩⟩

/-! ## What opens no span -/

theorem opensNoSpan_cons_iff :
    OpensNoSpan (a :: p) rest ↔ (∀ c ∈ p ++ rest, closer? a ≠ some c) ∧ OpensNoSpan p rest := by
  constructor
  · rintro ⟨hwithin, hacross⟩
    obtain ⟨hhead, htail⟩ := List.pairwise_cons.mp hwithin
    obtain ⟨hafter, hlater⟩ := List.forall_mem_cons.mp hacross
    exact ⟨List.forall_mem_append.mpr ⟨hhead, hafter⟩, htail, hlater⟩
  · rintro ⟨hfirst, htail⟩
    obtain ⟨hhead, hafter⟩ := List.forall_mem_append.mp hfirst
    exact ⟨List.pairwise_cons.mpr ⟨hhead, htail.within⟩,
      List.forall_mem_cons.mpr ⟨hafter, htail.across⟩⟩

theorem Spanless.opensNoSpan (h : t.Spanless) : OpensNoSpan t [] :=
  ⟨h, fun _ _ _ hc => absurd hc List.not_mem_nil⟩

/-! ## How a text is read -/

theorem withoutQuoted_cons_of_unclosed (h : ∀ c ∈ t, closer? a ≠ some c) :
    withoutQuoted (a :: t) = a :: withoutQuoted t := by
  rw [withoutQuoted]
  split
  next close hclose =>
    have hopen : close ∉ t := fun hmem => h close hmem hclose
    rw [if_neg hopen]
  next => rfl

theorem after_append_cons (hx : c ∉ x) (t : Text) : after c (x ++ c :: t) = t := by
  have hpass : ∀ d ∈ x, (d != c) = true := by
    intro d hd
    rw [bne_iff_ne]
    rintro rfl
    exact hx hd
  have hstop : List.dropWhile (· != c) (c :: t) = c :: t := List.dropWhile_cons_of_neg (by simp)
  rw [after, List.dropWhile_append_of_pos hpass, hstop, List.tail_cons]

theorem withoutQuoted_span (hclose : closer? o = some c) (hx : c ∉ x) (t : Text) :
    withoutQuoted (o :: (x ++ c :: t)) = withoutQuoted t := by
  have hmem : c ∈ x ++ c :: t := List.mem_append_right x List.mem_cons_self
  rw [withoutQuoted, hclose]
  dsimp only
  rw [if_pos hmem, after_append_cons hx]

theorem withoutQuoted_span_append (hclose : closer? o = some c) (hx : c ∉ x) (u t : Text) :
    withoutQuoted (o :: (x ++ c :: u) ++ t) = withoutQuoted (u ++ t) := by
  have hassoc : o :: (x ++ c :: u) ++ t = o :: (x ++ c :: (u ++ t)) := by simp
  rw [hassoc, withoutQuoted_span hclose hx]

/-- What holds of the empty text, of a character that opens no span and of a span, if it holds of
what follows them, holds of every text. -/
theorem span_induction {P : Text → Prop} (nil : P [])
    (kept : ∀ a t, (∀ c ∈ t, closer? a ≠ some c) → P t → P (a :: t))
    (span : ∀ o x c t, closer? o = some c → c ∉ x → P t → P (o :: (x ++ c :: t)))
    (t : Text) : P t := by
  induction t using withoutQuoted.induct with
  | case1 => exact nil
  | case2 o rest close hclose hmem ih =>
    obtain ⟨x, t, rfl, hx⟩ := List.eq_append_cons_of_mem hmem
    rw [after_append_cons hx] at ih
    exact span o x close t hclose hx ih
  | case3 o rest close hclose hnot ih =>
    refine kept o rest (fun c hc hcloses => hnot ?_) ih
    rwa [Option.some.inj (hclose.symm.trans hcloses)]
  | case4 a rest hnone ih =>
    refine kept a rest (fun c _ hcloses => ?_) ih
    rw [hnone] at hcloses
    cases hcloses

/-- What opens no span is kept as it is. -/
theorem withoutQuoted_append (h : OpensNoSpan p rest) :
    withoutQuoted (p ++ rest) = p ++ withoutQuoted rest := by
  induction p with
  | nil => rfl
  | cons a p ih =>
    obtain ⟨hunclosed, hp⟩ := opensNoSpan_cons_iff.mp h
    rw [List.cons_append, withoutQuoted_cons_of_unclosed hunclosed, ih hp, List.cons_append]

/-! ## What is left -/

theorem withoutQuoted_sublist (t : Text) : (withoutQuoted t).Sublist t := by
  induction t using span_induction with
  | nil =>
    rw [withoutQuoted]
  | kept a t hunclosed ih =>
    rw [withoutQuoted_cons_of_unclosed hunclosed]
    exact ih.cons_cons a
  | span o x c t hclose hx ih =>
    rw [withoutQuoted_span hclose hx]
    exact ((ih.cons c).trans (List.sublist_append_right x (c :: t))).cons o

/-- What is left of two texts one after the other is something of the first and then something of
the second. -/
theorem exists_withoutQuoted_append (u t : Text) :
    ∃ v s, withoutQuoted (u ++ t) = v ++ s ∧ v.Sublist u ∧ s.Sublist t := by
  induction u using span_induction with
  | nil => exact ⟨[], withoutQuoted t, rfl, List.Sublist.refl [], withoutQuoted_sublist t⟩
  | kept a u hunclosed ih =>
    by_cases hclosed : ∃ c ∈ t, closer? a = some c
    · -- the span starts in the first text and ends in the second
      obtain ⟨c, hc, hclose⟩ := hclosed
      obtain ⟨x, s, rfl, hx⟩ := List.eq_append_cons_of_mem hc
      have hbetween : c ∉ u ++ x := by
        rw [List.mem_append, not_or]
        exact ⟨fun hu => hunclosed c hu hclose, hx⟩
      have hread := withoutQuoted_span hclose hbetween s
      rw [List.append_assoc] at hread
      refine ⟨[], withoutQuoted s, hread, List.nil_sublist _, ?_⟩
      exact ((withoutQuoted_sublist s).cons c).trans (List.sublist_append_right x (c :: s))
    · have hafter : ∀ c ∈ t, closer? a ≠ some c := fun c hc hclose => hclosed ⟨c, hc, hclose⟩
      have hlater := List.forall_mem_append.mpr ⟨hunclosed, hafter⟩
      obtain ⟨v, s, heq, hv, hs⟩ := ih
      refine ⟨a :: v, s, ?_, hv.cons_cons a, hs⟩
      rw [List.cons_append, withoutQuoted_cons_of_unclosed hlater, heq, List.cons_append]
  | span o x c u hclose hx ih =>
    obtain ⟨v, s, heq, hv, hs⟩ := ih
    refine ⟨v, s, ?_, ?_, hs⟩
    · rw [withoutQuoted_span_append hclose hx, heq]
    · exact ((hv.cons c).trans (List.sublist_append_right x (c :: u))).cons o

theorem spanless_withoutQuoted (t : Text) : Spanless (withoutQuoted t) := by
  induction t using span_induction with
  | nil =>
    rw [withoutQuoted]
    exact List.Pairwise.nil
  | kept a t hunclosed ih =>
    rw [withoutQuoted_cons_of_unclosed hunclosed]
    refine List.pairwise_cons.mpr ⟨fun c hc => ?_, ih⟩
    exact hunclosed c ((withoutQuoted_sublist t).subset hc)
  | span o x c t hclose hx ih =>
    rw [withoutQuoted_span hclose hx]
    exact ih

theorem withoutQuoted_eq_self_iff : withoutQuoted t = t ↔ Spanless t := by
  constructor
  · intro h
    rw [← h]
    exact spanless_withoutQuoted t
  · intro h
    have hkept := withoutQuoted_append h.opensNoSpan
    rwa [List.append_nil, withoutQuoted, List.append_nil] at hkept

/-- A text without its quoted spans is a part of the text in which no span is left, and the text
itself just if it has none. Up to the first span a text stays as it is, and after it the rest is
read in the same way. So there is nothing left to take away a second time. -/
theorem withoutQuoted_takes_spans (t : Text) :
    (withoutQuoted t).Sublist t ∧ Spanless (withoutQuoted t) ∧
    (withoutQuoted t = t ↔ Spanless t) ∧
    (∀ p o x c s, t = p ++ o :: (x ++ c :: s) → OpensNoSpan p (o :: (x ++ c :: s)) →
      closer? o = some c → c ∉ x → withoutQuoted t = p ++ withoutQuoted s) ∧
    withoutQuoted (withoutQuoted t) = withoutQuoted t := by
  refine ⟨withoutQuoted_sublist t, spanless_withoutQuoted t, withoutQuoted_eq_self_iff, ?_, ?_⟩
  · rintro p o x c s rfl hp hclose hx
    rw [withoutQuoted_append hp, withoutQuoted_span hclose hx]
  · exact withoutQuoted_eq_self_iff.mpr (spanless_withoutQuoted t)

/-- The first apostrophe opens a span that ends at the next one, with the brackets inside. -/
theorem withoutQuoted_apostrophes :
    withoutQuoted "it's [a] 'b".toList = "it".toList ++ withoutQuoted "b".toList := by
  have hopens : OpensNoSpan "it".toList "'s [a] 'b".toList := by decide
  have hname : '\'' ∉ "s [a] ".toList := by decide
  obtain ⟨-, -, -, hspan, -⟩ := withoutQuoted_takes_spans "it's [a] 'b".toList
  exact hspan "it".toList '\'' "s [a] ".toList '\'' "b".toList rfl hopens rfl hname

/-! ## Delimiters -/

/-- The characters that open or close a quoted span. -/
def delimiters : List Char := ['\x60', '"', '\'', '[', ']', '{', '}']

theorem mem_delimiters_of_closer? (h : closer? o = some c) : o ∈ delimiters ∧ c ∈ delimiters := by
  unfold closer? at h
  split at h <;> cases h <;> decide

/-- What has no delimiters is kept as it is, and closes nothing that was opened before it. -/
theorem withoutQuoted_append_of_no_delimiter (h : ∀ c ∈ v, c ∉ delimiters) (u : Text) :
    withoutQuoted (u ++ v) = withoutQuoted u ++ v := by
  have hcloses : ∀ o, ∀ c ∈ v, closer? o ≠ some c := fun o c hc hclose =>
    h c hc (mem_delimiters_of_closer? hclose).2
  induction u using span_induction with
  | nil =>
    have hspanless : v.Spanless := List.pairwise_of_forall_mem_list fun o _ c hc => hcloses o c hc
    rw [List.nil_append, withoutQuoted, List.nil_append, withoutQuoted_eq_self_iff.mpr hspanless]
  | kept a u hunclosed ih =>
    have hlater := List.forall_mem_append.mpr ⟨hunclosed, hcloses a⟩
    rw [List.cons_append, withoutQuoted_cons_of_unclosed hlater, ih,
      withoutQuoted_cons_of_unclosed hunclosed, List.cons_append]
  | span o x c u hclose hx ih =>
    rw [withoutQuoted_span_append hclose hx, ih, withoutQuoted_span hclose hx]

end CommitGate.Text
