import CommitGate.History.Graph
import Mathlib.Logic.Relation
import Mathlib.Tactic.SplitIfs

/-!
# Reachability in the commit graph

The computed ancestors of a commit are the commits that can be reached from it, and the computed
merge base of two commits is a best common ancestor of them: no other common ancestor leads to it.
The first-parent line of a commit falls strictly, since parents come before their children.
-/

namespace CommitGate.Graph

variable {g : Graph} {a b c i j m p : Nat}

/-- A commit reaches another by going back to parents, any number of times. -/
def Reaches (g : Graph) : Nat → Nat → Prop := Relation.ReflTransGen fun i p => p ∈ g.parents i

/-- A common ancestor that cannot be reached from another one. -/
structure IsBestCommonAncestor (g : Graph) (a b m : Nat) : Prop where
  /-- The first commit reaches it. -/
  left : g.Reaches a m
  /-- The second commit reaches it. -/
  right : g.Reaches b m
  /-- No other common ancestor reaches it. -/
  best : ∀ c, g.Reaches a c → g.Reaches b c → g.Reaches c m → c = m

/-! ## The order of the commits -/

theorem parent_lt (h : p ∈ g.parents i) : p < i := by
  unfold parents at h
  by_cases hi : i < g.nodes.size
  · rw [Array.getElem?_eq_getElem hi] at h
    exact g.ordered i hi p h
  · rw [Array.getElem?_eq_none (by omega)] at h
    simp at h

theorem Reaches.le (h : g.Reaches i j) : j ≤ i := by
  induction h with
  | refl => exact Nat.le_refl _
  | tail _ hp ih => exact Nat.le_trans (Nat.le_of_lt (parent_lt hp)) ih

/-- What a commit reaches is the commit itself or is reached from a parent. -/
theorem reaches_iff : g.Reaches i j ↔ i = j ∨ ∃ p ∈ g.parents i, g.Reaches p j :=
  Relation.ReflTransGen.cases_head_iff

/-! ## Ancestors -/

/-- The closure of marked commits is what the marked commits among the first ones reach. -/
theorem mem_closure_iff {n : Nat} : ∀ {marked : List Nat},
    j ∈ g.closure n marked ↔ ∃ i ∈ marked, i < n ∧ g.Reaches i j := by
  induction n with
  | zero => intro marked; simp [closure]
  | succ n ih =>
    intro marked
    by_cases hn : n ∈ marked
    · rw [closure, if_pos hn, List.mem_cons, ih]
      constructor
      · rintro (rfl | ⟨i, hi, hlt, hr⟩)
        · exact ⟨j, hn, by omega, Relation.ReflTransGen.refl⟩
        · rcases List.mem_append.mp hi with hp | hm
          · exact ⟨n, hn, by omega, reaches_iff.mpr (Or.inr ⟨i, hp, hr⟩)⟩
          · exact ⟨i, hm, by omega, hr⟩
      · rintro ⟨i, hi, hlt, hr⟩
        by_cases hin : i = n
        · subst hin
          rcases reaches_iff.mp hr with rfl | ⟨p, hp, hpr⟩
          · exact Or.inl rfl
          · exact Or.inr ⟨p, List.mem_append_left _ hp, parent_lt hp, hpr⟩
        · exact Or.inr ⟨i, List.mem_append_right _ hi, by omega, hr⟩
    · rw [closure, if_neg hn, ih]
      constructor
      · rintro ⟨i, hi, hlt, hr⟩
        exact ⟨i, hi, by omega, hr⟩
      · rintro ⟨i, hi, hlt, hr⟩
        have hin : i ≠ n := fun h => hn (h ▸ hi)
        exact ⟨i, hi, by omega, hr⟩

theorem mem_ancestors_iff : j ∈ g.ancestors i ↔ g.Reaches i j := by
  rw [ancestors, mem_closure_iff]
  simp

theorem lt_of_mem_closure {n : Nat} {marked : List Nat} (h : j ∈ g.closure n marked) : j < n := by
  obtain ⟨i, -, hlt, hr⟩ := mem_closure_iff.mp h
  exact Nat.lt_of_le_of_lt hr.le hlt

/-- A closure lists its commits in falling order. -/
theorem pairwise_closure {n : Nat} : ∀ {marked : List Nat},
    (g.closure n marked).Pairwise (· > ·) := by
  induction n with
  | zero => intro marked; exact List.Pairwise.nil
  | succ n ih =>
    intro marked
    unfold closure
    split_ifs
    · exact List.pairwise_cons.mpr ⟨fun j hj => lt_of_mem_closure hj, ih⟩
    · exact ih

/-! ## The merge base -/

/-- The merge base is the greatest of the common ancestors. -/
theorem mergeBase?_greatest (h : g.mergeBase? a b = some m) :
    g.Reaches a m ∧ g.Reaches b m ∧ ∀ c, g.Reaches a c → g.Reaches b c → c ≤ m := by
  unfold mergeBase? at h
  obtain ⟨hshared, before, after, hsplit, hbefore⟩ := List.find?_eq_some_iff_append.mp h
  have hm : m ∈ g.ancestors a := by rw [hsplit]; simp
  refine ⟨mem_ancestors_iff.mp hm, mem_ancestors_iff.mp (by simpa using hshared), ?_⟩
  intro c hac hbc
  have hc : c ∈ before ++ m :: after := hsplit ▸ mem_ancestors_iff.mpr hac
  have hfall : (before ++ m :: after).Pairwise (· > ·) := hsplit ▸ pairwise_closure
  rcases List.mem_append.mp hc with hc | hc
  · have hnot := hbefore c hc
    simp [mem_ancestors_iff.mpr hbc] at hnot
  · rcases List.mem_cons.mp hc with rfl | hc
    · exact Nat.le_refl _
    · have hafter := (List.pairwise_cons.mp (List.pairwise_append.mp hfall).2.1).1
      exact Nat.le_of_lt (hafter c hc)

/-- The merge base is a best common ancestor. -/
theorem mergeBase?_isBest (h : g.mergeBase? a b = some m) : g.IsBestCommonAncestor a b m := by
  obtain ⟨ha, hb, hmax⟩ := mergeBase?_greatest h
  exact ⟨ha, hb, fun c hac hbc hcm => Nat.le_antisymm (hmax c hac hbc) hcm.le⟩

/-! ## The first-parent line -/

theorem back?_succ (n : Nat) : g.back? (n + 1) i = (g.parents i).head?.bind (g.back? n) := rfl

theorem reaches_of_back? {n : Nat} : ∀ {i : Nat}, g.back? n i = some c → g.Reaches i c := by
  induction n with
  | zero => intro i h; cases h; exact Relation.ReflTransGen.refl
  | succ n ih =>
    intro i h
    rw [back?_succ, Option.bind_eq_some_iff] at h
    obtain ⟨p, hp, hc⟩ := h
    exact Relation.ReflTransGen.head (List.mem_of_head? hp) (ih hc)

/-- Going back by a sum of steps is going back twice. -/
theorem back?_add (n k : Nat) : ∀ i, g.back? (n + k) i = (g.back? n i).bind (g.back? k) := by
  induction n with
  | zero => intro i; simp [back?]
  | succ n ih =>
    intro i
    have hsum : n + 1 + k = n + k + 1 := by omega
    rw [hsum, back?_succ, back?_succ]
    cases (g.parents i).head? with
    | none => rfl
    | some p => exact ih p

/-- A commit further back on a first-parent line comes earlier in the order. -/
theorem back?_lt {n k : Nat} (hnk : n < k) (hc : g.back? n i = some c)
    (hd : g.back? k i = some j) : j < c := by
  obtain ⟨k', rfl⟩ : ∃ k', k = n + (k' + 1) := ⟨k - n - 1, by omega⟩
  rw [back?_add, hc, Option.bind_some, back?_succ, Option.bind_eq_some_iff] at hd
  obtain ⟨p, hp, hj⟩ := hd
  exact Nat.lt_of_le_of_lt (reaches_of_back? hj).le (parent_lt (List.mem_of_head? hp))

end CommitGate.Graph
