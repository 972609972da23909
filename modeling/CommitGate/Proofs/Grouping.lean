import CommitGate.Proofs.Layout
import Mathlib.Data.List.Dedup

/-!
# The groups of a report

The diagnostics of a report are sorted by their keys and cut where the key changes. The order of
keys is total and the sort is stable, so that there is one group for each key, the groups come in
the order of keys, and a group holds all diagnostics of its key in the order in which they came.
-/

namespace CommitGate

/-! ## The order of keys -/

theorem Text.lt_or_eq_or_gt (s t : Text) : s < t ∨ s = t ∨ t < s := by
  rcases List.le_total s t with h | h
  · rcases List.le_iff_lt_or_eq.mp h with h | h
    · exact .inl h
    · exact .inr (.inl h)
  · rcases List.le_iff_lt_or_eq.mp h with h | h
    · exact .inr (.inr h)
    · exact .inr (.inl h.symm)

namespace GroupKey

/-- The strict order of groups. -/
inductive Before : GroupKey → GroupKey → Prop where
  /-- A group without a code comes before one with a code. -/
  | uncoded (s t c : Text) : Before ⟨none, s⟩ ⟨some c, t⟩
  /-- Groups with different codes come in the order of their codes. -/
  | code (s t : Text) {c d : Text} (h : c < d) : Before ⟨some c, s⟩ ⟨some d, t⟩
  /-- Groups that agree on the code come in the order of their descriptions. -/
  | description (c : Option Text) {s t : Text} (h : s < t) : Before ⟨c, s⟩ ⟨c, t⟩

variable {a b c : GroupKey}

theorem Before.irrefl (a : GroupKey) : ¬ a.Before a := by
  intro h
  cases h with
  | code s t h => exact List.lt_irrefl _ h
  | description c h => exact List.lt_irrefl _ h

theorem Before.trans (hab : a.Before b) (hbc : b.Before c) : a.Before c := by
  cases hab with
  | uncoded s t c =>
    cases hbc with
    | code _ t' h => exact .uncoded s t' _
    | description _ h => exact .uncoded s _ c
  | code s t h =>
    cases hbc with
    | code _ t' h' => exact .code s t' (List.lt_trans h h')
    | description _ h' => exact .code s _ h
  | description c h =>
    cases hbc with
    | uncoded _ t c => exact .uncoded _ t c
    | code _ t h' => exact .code _ t h'
    | description _ h' => exact .description c (List.lt_trans h h')

theorem Before.asymm (hab : a.Before b) : ¬ b.Before a := fun hba =>
  Before.irrefl a (hab.trans hba)

/-- Of two different keys, one comes before the other. -/
theorem before_or_eq_or_before (a b : GroupKey) : a.Before b ∨ a = b ∨ b.Before a := by
  obtain ⟨c, s⟩ := a
  obtain ⟨d, t⟩ := b
  have hsame : c = d → Before ⟨c, s⟩ ⟨d, t⟩ ∨ GroupKey.mk c s = ⟨d, t⟩ ∨ Before ⟨d, t⟩ ⟨c, s⟩ := by
    rintro rfl
    rcases Text.lt_or_eq_or_gt s t with h | rfl | h
    · exact .inl (.description c h)
    · exact .inr (.inl rfl)
    · exact .inr (.inr (.description c h))
  cases c with
  | none =>
    cases d with
    | none => exact hsame rfl
    | some y => exact .inl (.uncoded s t y)
  | some x =>
    cases d with
    | none => exact .inr (.inr (.uncoded t s x))
    | some y =>
      rcases Text.lt_or_eq_or_gt x y with h | rfl | h
      · exact .inl (.code s t h)
      · exact hsame rfl
      · exact .inr (.inr (.code t s h))

theorem le_of_before (h : a.Before b) : a.le b = true := by
  cases h with
  | uncoded s t c => rfl
  | code s t h => simp [le, h]
  | description c h =>
    have hnot := List.lt_asymm h
    cases c with
    | none => simp [le, hnot]
    | some x => simp [le, hnot]

theorem le_refl (a : GroupKey) : a.le a = true := by
  obtain ⟨c, s⟩ := a
  cases c with
  | none => simp [le, List.lt_irrefl]
  | some x => simp [le, List.lt_irrefl]

theorem not_le_of_before (h : b.Before a) : a.le b = false := by
  cases h with
  | uncoded s t c => rfl
  | code s t h =>
    have hne : ∀ x : Text, ¬ x < x := List.lt_irrefl
    simp only [le, Bool.or_eq_false_iff, decide_eq_false_iff_not]
    refine ⟨List.lt_asymm h, ?_⟩
    simp only [Bool.and_eq_false_iff, beq_eq_false_iff_ne]
    exact .inl fun heq => hne _ (heq ▸ h)
  | description c h =>
    cases c with
    | none => simp [le, h]
    | some x => simp [le, h, List.lt_irrefl]

/-- The test that the sort uses decides the strict order or equality. -/
theorem le_iff : a.le b = true ↔ a = b ∨ a.Before b := by
  constructor
  · intro h
    rcases before_or_eq_or_before a b with hab | hab | hba
    · exact .inr hab
    · exact .inl hab
    · rw [not_le_of_before hba] at h
      cases h
  · rintro (rfl | h)
    · exact le_refl a
    · exact le_of_before h

theorem le_trans (a b c : GroupKey) (hab : a.le b = true) (hbc : b.le c = true) :
    a.le c = true := by
  rw [le_iff] at hab hbc ⊢
  rcases hab with rfl | hab
  · exact hbc
  · rcases hbc with rfl | hbc
    · exact .inr hab
    · exact .inr (hab.trans hbc)

theorem le_total (a b : GroupKey) : (a.le b || b.le a) = true := by
  rw [Bool.or_eq_true, le_iff, le_iff]
  rcases before_or_eq_or_before a b with h | h | h
  · exact .inl (.inr h)
  · exact .inl (.inl h)
  · exact .inr (.inr h)

theorem le_antisymm (hab : a.le b = true) (hba : b.le a = true) : a = b := by
  rw [le_iff] at hab hba
  rcases hab with h | hab
  · exact h
  · rcases hba with h | hba
    · exact h.symm
    · exact absurd hba hab.asymm

end GroupKey

/-! ## Sorting by key -/

/-- Diagnostics whose keys do not decrease. -/
def SortedByKey (ds : List Diagnostic) : Prop :=
  ds.Pairwise fun a b => a.groupKey.le b.groupKey = true

/-- The diagnostics in the order of their keys, as a report shows them. -/
def sortByKey (ds : List Diagnostic) : List Diagnostic :=
  ds.mergeSort fun a b => a.groupKey.le b.groupKey

/-- The diagnostics with the given key. -/
def withKey (k : GroupKey) (ds : List Diagnostic) : List Diagnostic :=
  ds.filter (·.groupKey = k)

section Sorting

variable {ds xs ys : List Diagnostic} {k : GroupKey} {d : Diagnostic}

theorem mem_withKey_iff : d ∈ withKey k ds ↔ d ∈ ds ∧ d.groupKey = k := by
  simp [withKey]

theorem mem_withKey_self_iff : d ∈ withKey d.groupKey ds ↔ d ∈ ds := by
  simp [mem_withKey_iff]

theorem withKey_cons_self (d : Diagnostic) (ds : List Diagnostic) :
    withKey d.groupKey (d :: ds) = d :: withKey d.groupKey ds := by
  simp [withKey]

theorem withKey_append (k : GroupKey) (xs ys : List Diagnostic) :
    withKey k (xs ++ ys) = withKey k xs ++ withKey k ys := List.filter_append ..

@[simp] theorem withKey_withKey_self (k : GroupKey) (ds : List Diagnostic) :
    withKey k (withKey k ds) = withKey k ds :=
  List.filter_eq_self.mpr fun d hd => by simpa using (mem_withKey_iff.mp hd).2

theorem withKey_withKey_of_ne {k k' : GroupKey} (h : k ≠ k') (ds : List Diagnostic) :
    withKey k (withKey k' ds) = [] := by
  refine List.filter_eq_nil_iff.mpr fun d hd => ?_
  rw [(mem_withKey_iff.mp hd).2, decide_eq_true_iff]
  exact h.symm

theorem sortedByKey_withKey (k : GroupKey) (ds : List Diagnostic) : SortedByKey (withKey k ds) := by
  refine List.pairwise_of_forall_mem_list fun a ha b hb => ?_
  rw [(mem_withKey_iff.mp ha).2, (mem_withKey_iff.mp hb).2]
  exact GroupKey.le_refl k

theorem sortedByKey_sortByKey (ds : List Diagnostic) : SortedByKey (sortByKey ds) :=
  List.pairwise_mergeSort
    (fun a b c => GroupKey.le_trans a.groupKey b.groupKey c.groupKey)
    (fun a b => GroupKey.le_total a.groupKey b.groupKey) ds

theorem sortByKey_perm (ds : List Diagnostic) : (sortByKey ds).Perm ds := List.mergeSort_perm ..

/-- The sort is stable: it keeps the diagnostics of each key in their order. -/
theorem withKey_sortByKey (k : GroupKey) (ds : List Diagnostic) :
    withKey k (sortByKey ds) = withKey k ds := by
  have hsub : (withKey k ds).Sublist (sortByKey ds) :=
    List.sublist_mergeSort
      (fun a b c => GroupKey.le_trans a.groupKey b.groupKey c.groupKey)
      (fun a b => GroupKey.le_total a.groupKey b.groupKey) (sortedByKey_withKey k ds)
      List.filter_sublist
  have hkept : (withKey k ds).Sublist (withKey k (sortByKey ds)) := by
    have h := hsub.filter (·.groupKey = k)
    rwa [← withKey, ← withKey, withKey_withKey_self] at h
  have hperm : (withKey k (sortByKey ds)).Perm (withKey k ds) := (sortByKey_perm ds).filter _
  exact (hkept.eq_of_length hperm.length_eq.symm).symm

theorem SortedByKey.head_le (h : SortedByKey (d :: ds)) {e : Diagnostic} (he : e ∈ d :: ds) :
    d.groupKey.le e.groupKey = true := by
  rcases List.mem_cons.mp he with rfl | he
  · exact GroupKey.le_refl _
  · exact List.rel_of_pairwise_cons h he

/-- Sorted lists that agree on the diagnostics of each key are the same. -/
theorem SortedByKey.eq_of_withKey_eq (hx : SortedByKey xs) (hy : SortedByKey ys)
    (h : ∀ k, withKey k xs = withKey k ys) : xs = ys := by
  induction xs generalizing ys with
  | nil =>
    cases ys with
    | nil => rfl
    | cons y ys =>
      have hnil := h y.groupKey
      rw [withKey_cons_self] at hnil
      cases hnil
  | cons x xs ih =>
    cases ys with
    | nil =>
      have hnil := h x.groupKey
      rw [withKey_cons_self] at hnil
      cases hnil
    | cons y ys =>
      -- each head is somewhere in the other list, so that neither key comes before the other
      have hmem : ∀ d, d ∈ x :: xs ↔ d ∈ y :: ys := fun d => by
        rw [← mem_withKey_self_iff, h, mem_withKey_self_iff]
      have hkey : x.groupKey = y.groupKey :=
        GroupKey.le_antisymm (hx.head_le ((hmem y).mpr List.mem_cons_self))
          (hy.head_le ((hmem x).mp List.mem_cons_self))
      have hhead := h x.groupKey
      rw [withKey_cons_self, hkey, withKey_cons_self] at hhead
      obtain ⟨rfl, -⟩ := List.cons.inj hhead
      have htail : ∀ k, withKey k xs = withKey k ys := fun k => by
        have hk := h k
        by_cases hxk : x.groupKey = k
        · subst hxk
          rw [withKey_cons_self, withKey_cons_self] at hk
          exact List.tail_eq_of_cons_eq hk
        · simpa [withKey, hxk] using hk
      rw [ih hx.of_cons hy.of_cons htail]

/-- The order in which a report shows diagnostics depends only on the order within each key. -/
theorem sortByKey_eq_of_withKey_eq (h : ∀ k, withKey k xs = withKey k ys) :
    sortByKey xs = sortByKey ys :=
  (sortedByKey_sortByKey xs).eq_of_withKey_eq (sortedByKey_sortByKey ys) fun k => by
    rw [withKey_sortByKey, withKey_sortByKey, h]

end Sorting

/-! ## One group for each key -/

/-- The keys of some diagnostics, each once and in order. -/
structure KeysOf (keys : List GroupKey) (ds : List Diagnostic) : Prop where
  /-- Every key comes before those that follow it. -/
  increasing : keys.Pairwise GroupKey.Before
  /-- The keys are those of the diagnostics. -/
  mem_iff : ∀ k, k ∈ keys ↔ ∃ d ∈ ds, d.groupKey = k

section Groups

variable {ds : List Diagnostic} {keys : List GroupKey} {k : GroupKey}

/-- Of parts with different keys put together, the diagnostics of a key are those of its part. -/
theorem withKey_flatMap (hnodup : keys.Nodup) (ds : List Diagnostic) (k : GroupKey) :
    withKey k (keys.flatMap fun k' => withKey k' ds) = if k ∈ keys then withKey k ds else [] := by
  induction keys with
  | nil => rfl
  | cons k' keys ih =>
    obtain ⟨hnotin, hnodup⟩ := List.nodup_cons.mp hnodup
    rw [List.flatMap_cons, withKey_append, ih hnodup]
    by_cases hk : k = k'
    · subst hk
      simp [hnotin]
    · simp [hk, withKey_withKey_of_ne hk]

theorem exists_keysOf (ds : List Diagnostic) : ∃ keys, KeysOf keys ds := by
  refine ⟨((sortByKey ds).map Diagnostic.groupKey).dedup, ?_, fun k => ?_⟩
  · have hle : ((sortByKey ds).map Diagnostic.groupKey).Pairwise fun a b => a.le b = true :=
      List.pairwise_map.mpr (sortedByKey_sortByKey ds)
    have hne := List.nodup_dedup ((sortByKey ds).map Diagnostic.groupKey)
    refine List.Pairwise.imp₂ (fun a b hab hne => ?_) (hle.sublist (List.dedup_sublist _)) hne
    exact (GroupKey.le_iff.mp hab).resolve_left hne
  · simp [(sortByKey_perm ds).mem_iff]

namespace KeysOf

theorem nodup (h : KeysOf keys ds) : keys.Nodup :=
  h.increasing.imp fun {a b} hab => by
    rintro rfl
    exact GroupKey.Before.irrefl _ hab

theorem withKey_ne_nil (h : KeysOf keys ds) (hk : k ∈ keys) : withKey k ds ≠ [] := by
  obtain ⟨d, hd, rfl⟩ := (h.mem_iff k).mp hk
  exact List.ne_nil_of_mem (mem_withKey_self_iff.mpr hd)

theorem withKey_eq_nil (h : KeysOf keys ds) (hk : k ∉ keys) : withKey k ds = [] := by
  refine List.eq_nil_iff_forall_not_mem.mpr fun d hd => hk ?_
  exact (h.mem_iff k).mpr ⟨d, mem_withKey_iff.mp hd⟩

/-- Sorting puts the diagnostics of the keys one after the other. -/
theorem sortByKey_eq (h : KeysOf keys ds) :
    sortByKey ds = keys.flatMap fun k => withKey k ds := by
  have hsorted : SortedByKey (keys.flatMap fun k => withKey k ds) := by
    refine List.pairwise_flatMap.mpr ⟨fun k _ => sortedByKey_withKey k ds, ?_⟩
    refine h.increasing.imp fun {k k'} hk a ha b hb => ?_
    rw [(mem_withKey_iff.mp ha).2, (mem_withKey_iff.mp hb).2]
    exact GroupKey.le_of_before hk
  refine (sortedByKey_sortByKey ds).eq_of_withKey_eq hsorted fun k => ?_
  rw [withKey_sortByKey, withKey_flatMap h.nodup]
  split_ifs with hk
  · rfl
  · exact h.withKey_eq_nil hk

/-- The groups of a report are those of the keys. -/
theorem groupDiagnostics_eq (h : KeysOf keys ds) :
    groupDiagnostics ds = keys.map fun k => withKey k ds := by
  have hflat : sortByKey ds = (keys.map fun k => withKey k ds).flatten := by
    rw [h.sortByKey_eq, List.flatMap_def]
  have hkey : ∀ {k d}, d ∈ withKey k ds → d.groupKey = k := fun hd => (mem_withKey_iff.mp hd).2
  rw [groupDiagnostics, ← sortByKey, hflat]
  refine List.splitBy_flatten ?_ ?_ ?_
  · intro hnil
    obtain ⟨k, hk, hnil⟩ := List.mem_map.mp hnil
    exact h.withKey_ne_nil hk hnil
  · intro g hg
    obtain ⟨k, hk, rfl⟩ := List.mem_map.mp hg
    refine (List.pairwise_of_forall_mem_list fun a ha b hb => ?_).isChain
    rw [hkey ha, hkey hb, beq_self_eq_true]
  · refine List.Pairwise.isChain (List.pairwise_map.mpr ?_)
    refine h.increasing.imp_of_mem fun {k k'} hk hk' hbefore => ?_
    refine ⟨h.withKey_ne_nil hk, h.withKey_ne_nil hk', ?_⟩
    rw [hkey (List.getLast_mem _), hkey (List.head_mem _), beq_eq_false_iff_ne]
    rintro rfl
    exact GroupKey.Before.irrefl _ hbefore

end KeysOf

end Groups

/-! ## The text of a report -/

/-- The text of a group: the header of a key, and below it diagnostics. -/
def GroupKey.block (color : Bool) (lines : List Text) (k : GroupKey) (ds : List Diagnostic) :
    Text :=
  paint color [.styled [.bold, .red] k.header, newline, newline] ++
    ds.flatMap (fun d => paint color (d.pieces lines)) ++ ['\n']

/-- The last line of a report on so many diagnostics; without any there is none. -/
def summaryText (color : Bool) (count : Nat) : Text :=
  if count = 0 then [] else paint color (summaryPieces count)

/-- Diagnostics with a common key are shown below the header of that key. -/
theorem paint_groupPieces {color : Bool} {lines : List Text} {ds : List Diagnostic} {k : GroupKey}
    (hne : ds ≠ []) (hkey : ∀ d ∈ ds, d.groupKey = k) :
    paint color (groupPieces lines ds) = k.block color lines ds := by
  cases ds with
  | nil => exact absurd rfl hne
  | cons d ds =>
    rw [groupPieces, hkey d List.mem_cons_self, paint_append, paint_append, paint_flatMap]
    rfl

/-- The groups of a report, painted, are the blocks of the keys. -/
theorem KeysOf.paint_groups {keys : List GroupKey} {ds : List Diagnostic} (h : KeysOf keys ds)
    (color : Bool) (lines : List Text) :
    paint color ((groupDiagnostics ds).flatMap (groupPieces lines)) =
      keys.flatMap fun k => k.block color lines (withKey k ds) := by
  rw [h.groupDiagnostics_eq, List.flatMap_map, paint_flatMap]
  refine List.flatMap_congr fun k hk => ?_
  exact paint_groupPieces (h.withKey_ne_nil hk) fun d hd => (mem_withKey_iff.mp hd).2

theorem Report.paint_pieces_eq {keys : List GroupKey} {r : Report} (h : KeysOf keys r.diagnostics)
    (color : Bool) :
    paint color r.pieces =
      keys.flatMap (fun k => k.block color r.message.lines (withKey k r.diagnostics)) ++
        summaryText color r.diagnostics.length := by
  rw [pieces, paint_append, h.paint_groups]
  congr 1
  unfold summaryText
  by_cases hnil : r.diagnostics = []
  · simp [hnil, paint]
  · simp [hnil]

/-- What a report shows, and whether it can be laid out, depends only on the order within keys. -/
theorem Report.text_eq_of_withKey_eq (r : Report) {ds : List Diagnostic}
    (h : ∀ k, withKey k ds = withKey k r.diagnostics) (color : Bool) :
    text color { r with diagnostics := ds } = r.text color := by
  have hsort : sortByKey ds = sortByKey r.diagnostics := sortByKey_eq_of_withKey_eq h
  have hperm : ds.Perm r.diagnostics := (sortByKey_perm ds).symm.trans (hsort ▸ sortByKey_perm _)
  have hfits : fits { r with diagnostics := ds } = r.fits := hperm.all_eq
  have hpieces : pieces { r with diagnostics := ds } = r.pieces := by
    have hgroups : groupDiagnostics ds = groupDiagnostics r.diagnostics :=
      congrArg (List.splitBy _) hsort
    have hnil : ds = [] ↔ r.diagnostics = [] := by
      rw [← List.length_eq_zero_iff, hperm.length_eq, List.length_eq_zero_iff]
    simp only [pieces, hgroups, hperm.length_eq, hnil]
  rw [text, text, hfits, hpieces]

/-- A report that can be laid out shows one block for each key, in the strict order of keys: the
header of the key and then the diagnostics with that key in their order. A last line counts all
diagnostics. Every diagnostic is in just one block, and reports whose diagnostics differ in their
order only, but not in the order within a key, look the same. -/
theorem text_groups_by_key (color : Bool) (r : Report) :
    ∃ keys : List GroupKey,
      keys.Pairwise GroupKey.Before ∧
      (∀ k, k ∈ keys ↔ ∃ d ∈ r.diagnostics, d.groupKey = k) ∧
      (r.text color =
        if r.fits then
          .ok (keys.flatMap
              (fun k => k.block color r.message.lines (r.diagnostics.filter (·.groupKey = k))) ++
            summaryText color r.diagnostics.length)
        else .error .fieldTooWide) ∧
      (keys.flatMap fun k => r.diagnostics.filter (·.groupKey = k)).Perm r.diagnostics ∧
      ∀ ds : List Diagnostic,
        (∀ k, ds.filter (·.groupKey = k) = r.diagnostics.filter (·.groupKey = k)) →
          ({ r with diagnostics := ds } : Report).text color = r.text color := by
  obtain ⟨keys, hkeys⟩ := exists_keysOf r.diagnostics
  refine ⟨keys, hkeys.increasing, hkeys.mem_iff, ?_, ?_, fun ds hds => ?_⟩
  · rw [Report.text, Report.paint_pieces_eq hkeys]
    rfl
  · have hperm := sortByKey_perm r.diagnostics
    rwa [hkeys.sortByKey_eq] at hperm
  · exact r.text_eq_of_withKey_eq hds color

/-- A diagnostic of a rule with a code, told from others of the rule by its note. -/
def noted (code description note : String) : Diagnostic where
  description := description.toList
  code := some code.toList
  note := some note.toList

/-- A diagnostic of the rule `A` that came between two of the rule `B` is shown before both. -/
theorem text_interleaved_eq_sorted :
    let mixed := [noted "B" "second" "one", noted "A" "first" "two", noted "B" "second" "three"]
    let sorted := [noted "A" "first" "two", noted "B" "second" "one", noted "B" "second" "three"]
    (∀ k, sorted.filter (·.groupKey = k) = mixed.filter (·.groupKey = k)) ∧
      (Report.mk none "Add".toList sorted).text false =
        (Report.mk none "Add".toList mixed).text false := by
  intro mixed sorted
  have hfilter : ∀ k, sorted.filter (·.groupKey = k) = mixed.filter (·.groupKey = k) := by
    intro k
    by_cases hk : (noted "A" "first" "two").groupKey = k
    · subst hk
      decide
    · simp [mixed, sorted, List.filter_cons, hk]
  obtain ⟨keys, -, -, -, -, hsame⟩ := text_groups_by_key false (Report.mk none "Add".toList mixed)
  exact ⟨hfilter, hsame sorted hfilter⟩

end CommitGate
