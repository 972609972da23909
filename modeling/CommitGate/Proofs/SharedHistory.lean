import CommitGate.Proofs.Repository
import CommitGate.Proofs.Reviewed

/-!
# Shared history

A walk goes back along first parents, while its boundary, the merge base of the head and the base,
is found in the whole graph. If the boundary lies on the line of the head, then no commit that the
base reaches is reviewed. If it does not, as after the base was merged into the branch, the line
runs into the shared history elsewhere, and the walk goes on through it.
-/

namespace CommitGate

namespace Repository

variable {r : Repository} {base : Text} {limit a b c m n : Nat}

/-- A walk up to the merge base with a base shows that it reviewed a commit that the base
reaches. -/
def ShowsShared (r : Repository) (base : Text) (b limit : Nat) (reporter : Reporter) : Prop :=
  ∃ n c, r.line n = some c ∧ r.graph.Reaches b c ∧
    Walk.Shows (r.source base) { limit } reporter n

/-! ## The line of the head -/

/-- The line of the head has no gaps. -/
theorem exists_line_of_le {i : Nat} (h : r.line n = some c) (hi : i ≤ n) :
    ∃ d, r.line i = some d ∧ r.graph.Reaches d c := by
  unfold line at h ⊢
  split at h
  next a' hhead =>
    obtain ⟨k, rfl⟩ := Nat.exists_eq_add_of_le hi
    rw [Graph.back?_add, Option.bind_eq_some_iff] at h
    obtain ⟨d, hd, hc⟩ := h
    exact ⟨d, hd, Graph.reaches_of_back? hc⟩
  next => cases h

/-- On the line of the head, a commit that the base reaches does not come before the merge base. -/
theorem le_of_line_mergeBase (ha : r.commitOf "HEAD".toList = .ok a)
    (hm : r.graph.mergeBase? a b = some m) {k : Nat} (hk : r.line k = some m)
    (hn : r.line n = some c) (hc : r.graph.Reaches b c) : k ≤ n := by
  by_contra hlt
  have hback := back?_of_line ha hn
  have hcm : c ≤ m := (Graph.mergeBase?_greatest hm).2.2 c (Graph.reaches_of_back? hback) hc
  have hmc : m < c := Graph.back?_lt (by omega) hback (back?_of_line ha hk)
  omega

/-! ## Reviewed commits of a repository -/

/-- What a walk reviews, in terms of the repository. -/
theorem reviewed_source_iff (ha : r.commitOf "HEAD".toList = .ok a)
    (hb : r.commitOf base = .ok b) (hm : r.graph.mergeBase? a b = some m) :
    Walk.Reviewed (r.source base) { limit } n ↔
      n < limit ∧ (∃ c, r.line n = some c) ∧
        (∀ i ≤ n, ∀ d, r.line i = some d → (r.commitAt d).hash ≠ (r.commitAt m).hash) ∧
        ∀ i < n, ∀ d, r.line i = some d → Policy.review (r.commitAt d).message = [] := by
  have hboundary : WalkOptions.boundary { limit } (r.source base) = some (r.commitAt m).hash :=
    source_mergeBase ha hb hm
  constructor
  · rintro ⟨hlt, ⟨c, hc, hne⟩, hpass⟩
    rw [source_commit, Option.map_eq_some_iff] at hc
    obtain ⟨d, hd, rfl⟩ := hc
    rw [hboundary] at hne hpass
    have hbefore : ∀ i < n, ∀ d, r.line i = some d →
        (r.commitAt d).hash ≠ (r.commitAt m).hash ∧
          Policy.review (r.commitAt d).message = [] := by
      intro i hi d hd
      obtain ⟨c, hc, hne, hr⟩ := hpass i hi
      rw [source_commit, hd] at hc
      cases hc
      exact ⟨fun h => hne (by rw [h]), hr⟩
    refine ⟨hlt, ⟨d, hd⟩, fun i hi e he => ?_, fun i hi e he => (hbefore i hi e he).2⟩
    by_cases hin : i = n
    · subst hin
      rw [hd] at he
      cases he
      exact fun h => hne (by rw [h])
    · exact (hbefore i (by omega) e he).1
  · rintro ⟨hlt, ⟨c, hc⟩, hne, hr⟩
    refine ⟨hlt, ⟨r.commitAt c, by rw [source_commit, hc]; rfl, ?_⟩, fun i hi => ?_⟩
    · rw [hboundary]
      exact fun h => hne n (Nat.le_refl n) c hc (Option.some.inj h).symm
    · obtain ⟨d, hd, -⟩ := exists_line_of_le hc (Nat.le_of_lt hi)
      refine ⟨r.commitAt d, by rw [source_commit, hd]; rfl, ?_, hr i hi d hd⟩
      rw [hboundary]
      exact fun h => hne i (Nat.le_of_lt hi) d hd (Option.some.inj h).symm

/-- With the merge base on the line of the head, no commit that the base reaches is reviewed. -/
theorem not_reviewed_of_line_mergeBase (ha : r.commitOf "HEAD".toList = .ok a)
    (hb : r.commitOf base = .ok b) (hm : r.graph.mergeBase? a b = some m) {k : Nat}
    (hk : r.line k = some m) (hn : r.line n = some c) (hc : r.graph.Reaches b c) :
    ¬ Walk.Reviewed (r.source base) { limit } n := by
  intro h
  have hkn := le_of_line_mergeBase ha hm hk hn hc
  exact ((reviewed_source_iff ha hb hm).mp h).2.2.1 k hkn m hk rfl

end Repository

/-- A walk up to the merge base shows that it reviewed a commit that the base reaches just if it
comes to such a commit on the line of the head before its limit, before a violation and before the
hash of the merge base. It never does so if the merge base lies on the line. -/
theorem showsShared_iff_before_mergeBase (r : Repository) (base : Text) (limit : Nat)
    (reporter : Reporter) {a b m : Nat} (ha : r.commitOf "HEAD".toList = .ok a)
    (hb : r.commitOf base = .ok b) (hm : r.graph.mergeBase? a b = some m) :
    (r.ShowsShared base b limit reporter ↔
      ∃ n c, n < limit ∧ r.line n = some c ∧ r.graph.Reaches b c ∧
        (∀ i ≤ n, ∀ d, r.line i = some d → (r.commitAt d).hash ≠ (r.commitAt m).hash) ∧
        ∀ i < n, ∀ d, r.line i = some d → Policy.review (r.commitAt d).message = []) ∧
    ((∃ n, r.line n = some m) → ¬ r.ShowsShared base b limit reporter) := by
  refine ⟨⟨?_, ?_⟩, ?_⟩
  · rintro ⟨n, c, hn, hc, hshows⟩
    obtain ⟨hlt, -, hne, hr⟩ :=
      (Repository.reviewed_source_iff ha hb hm).mp (Walk.reviewed_of_shows hshows)
    exact ⟨n, c, hlt, hn, hc, hne, hr⟩
  · rintro ⟨n, c, hlt, hn, hc, hne, hr⟩
    have hrev := (Repository.reviewed_source_iff ha hb hm).mpr ⟨hlt, ⟨c, hn⟩, hne, hr⟩
    obtain ⟨i, hni, hshows⟩ := Walk.exists_shows_of_reviewed hrev reporter
    obtain ⟨d, hd⟩ :=
      ((Repository.reviewed_source_iff ha hb hm).mp (Walk.reviewed_of_shows hshows)).2.1
    -- what comes after a shared commit on the line is shared as well
    obtain ⟨c', hc', hreach⟩ := Repository.exists_line_of_le hd hni
    rw [hn] at hc'
    cases hc'
    exact ⟨i, d, hd, hc.trans hreach, hshows⟩
  · rintro ⟨k, hk⟩ ⟨n, c, hn, hc, hshows⟩
    exact Repository.not_reviewed_of_line_mergeBase ha hb hm hk hn hc
      (Walk.reviewed_of_shows hshows)

/-- A branch of one commit next to one commit of `main`, after `main` was merged into it. The common
start of both has a message that violates the policy. -/
def Repository.mergedBack : Repository where
  graph :=
    (((Graph.empty.push ⟨"a0".toList, Text.bytes "wip\n".toList, []⟩).push
      ⟨"b1".toList, Text.bytes "Start the parser\n".toList, [0]⟩).push
      ⟨"c2".toList, Text.bytes "Add a lexer\n".toList, [0]⟩).push
      ⟨"d3".toList, Text.bytes "Merge the main branch\n".toList, [2, 1]⟩
  refs := [("refs/heads/main".toList, .commit 1), ("refs/heads/lexer".toList, .commit 3)]
  head := .symbolic "refs/heads/lexer".toList

/-- A walk in `mergedBack` reviews the common start, which `main` reaches. -/
theorem showsShared_mergedBack :
    Repository.mergedBack.commitOf "HEAD".toList = .ok 3 ∧
      Repository.mergedBack.commitOf "main".toList = .ok 1 ∧
      Repository.mergedBack.graph.mergeBase? 3 1 = some 1 ∧
      Repository.mergedBack.ShowsShared "main".toList 1 500 {} := by
  have hhead : Repository.mergedBack.commitOf "HEAD".toList = .ok 3 := by decide +kernel
  have hmain : Repository.mergedBack.commitOf "main".toList = .ok 1 := by decide +kernel
  have hbase : Repository.mergedBack.graph.mergeBase? 3 1 = some 1 := by decide +kernel
  have h0 : Repository.mergedBack.line 0 = some 3 := by decide +kernel
  have h1 : Repository.mergedBack.line 1 = some 2 := by decide +kernel
  have h2 : Repository.mergedBack.line 2 = some 0 := by decide +kernel
  have hreach : Repository.mergedBack.graph.Reaches 1 0 :=
    Relation.ReflTransGen.single (by decide +kernel)
  refine ⟨hhead, hmain, hbase,
    (showsShared_iff_before_mergeBase _ _ 500 {} hhead hmain hbase).1.mpr
      ⟨2, 0, by omega, h2, hreach, fun i hi d hd => ?_, fun i hi d hd => ?_⟩⟩
  · obtain rfl | rfl | rfl : i = 0 ∨ i = 1 ∨ i = 2 := by omega
    · rw [h0] at hd; cases hd; decide +kernel
    · rw [h1] at hd; cases hd; decide +kernel
    · rw [h2] at hd; cases hd; decide +kernel
  · obtain rfl | rfl : i = 0 ∨ i = 1 := by omega
    · rw [h0] at hd; cases hd; decide +kernel
    · rw [h1] at hd; cases hd; decide +kernel

/-- A walk up to the merge base can review commits that the base reaches, even where the merge base
is the only best common ancestor: in `mergedBack` it reports the common start. -/
theorem exists_shared_commit_reported :
    ¬ ∀ (r : Repository) (base : Text) (limit : Nat) (reporter : Reporter) (a b m : Nat),
      r.commitOf "HEAD".toList = .ok a → r.commitOf base = .ok b →
      r.graph.mergeBase? a b = some m →
      (∀ m', r.graph.IsBestCommonAncestor a b m' → m' = m) →
      ¬ r.ShowsShared base b limit reporter := by
  intro h
  have hreach : Repository.mergedBack.graph.Reaches 1 0 :=
    Relation.ReflTransGen.single (by decide +kernel)
  have hmerged : Repository.mergedBack.graph.Reaches 3 1 :=
    Relation.ReflTransGen.single (by decide +kernel)
  have hreported : Walk.Shows (Repository.mergedBack.source "main".toList) { limit := 500 } {} 2 :=
    Walk.Shows.reported ⟨"a0".toList, "wip\n".toList⟩ 1 (by decide +kernel) (by decide +kernel)
      (by decide +kernel)
  refine h Repository.mergedBack "main".toList 500 {} 3 1 1 (by decide +kernel) (by decide +kernel)
    (by decide +kernel) (fun m' hm' => ?_) ⟨2, 0, by decide +kernel, hreach, hreported⟩
  exact (hm'.best 1 hmerged Relation.ReflTransGen.refl hm'.right).symm

end CommitGate
