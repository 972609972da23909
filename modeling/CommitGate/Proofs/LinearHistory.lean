import CommitGate.Proofs.Graph
import Mathlib.Data.List.Sort
import Mathlib.Data.List.TakeWhile

/-!
# Linear histories

If no commit that a commit reaches has more than one parent, then its ancestors are its first-parent
line. Once a commit on the line is reached from elsewhere, so are all after it; thus the commits that
another one does not reach come first on the line, and the merge base of the two comes next.
-/

namespace CommitGate.Graph

variable {g : Graph} {a b c p : Nat}

/-- No commit that is reached merges histories. -/
def Linear (g : Graph) (a : Nat) : Prop := ∀ c, g.Reaches a c → (g.parents c).length ≤ 1

theorem Linear.of_reaches (h : g.Linear a) (hc : g.Reaches a c) : g.Linear c :=
  fun d hd => h d (hc.trans hd)

/-- A linear history starts in its commit or goes on with a single parent. -/
theorem Linear.parents_cases (h : g.Linear a) :
    g.parents a = [] ∨ ∃ p, g.parents a = [p] ∧ g.Linear p := by
  have hlength := h a Relation.ReflTransGen.refl
  match hp : g.parents a with
  | [] => exact Or.inl rfl
  | [p] =>
    have hmem : p ∈ g.parents a := hp ▸ List.mem_cons_self
    exact Or.inr ⟨p, rfl, h.of_reaches (Relation.ReflTransGen.single hmem)⟩
  | _ :: _ :: _ =>
    rw [hp] at hlength
    simp at hlength

/-! ## Ancestors -/

theorem pairwise_ancestors (g : Graph) (a : Nat) : (g.ancestors a).Pairwise (· > ·) :=
  pairwise_closure

theorem ancestors_of_parents_nil (h : g.parents a = []) : g.ancestors a = [a] := by
  apply List.Pairwise.eq_of_mem_iff (pairwise_ancestors g a) (List.pairwise_singleton _ _)
  intro c
  rw [mem_ancestors_iff, reaches_iff, h, List.mem_singleton]
  simp [eq_comm]

theorem ancestors_of_parents_singleton (h : g.parents a = [p]) :
    g.ancestors a = a :: g.ancestors p := by
  have hp : p < a := parent_lt (h ▸ List.mem_cons_self)
  have hfall : (a :: g.ancestors p).Pairwise (· > ·) := by
    refine List.pairwise_cons.mpr ⟨fun c hc => ?_, pairwise_ancestors g p⟩
    have hle := (mem_ancestors_iff.mp hc).le
    omega
  apply List.Pairwise.eq_of_mem_iff (pairwise_ancestors g a) hfall
  intro c
  rw [mem_ancestors_iff, reaches_iff, h, List.mem_cons, mem_ancestors_iff]
  simp [eq_comm]

/-- The ancestors in a linear history are its first-parent line. By induction on the steps back. -/
theorem Linear.back?_eq (h : g.Linear a) (n : Nat) : g.back? n a = (g.ancestors a)[n]? := by
  induction n generalizing a with
  | zero =>
    rcases h.parents_cases with hnil | ⟨p, hp, -⟩
    · rw [ancestors_of_parents_nil hnil]
      rfl
    · rw [ancestors_of_parents_singleton hp]
      rfl
  | succ n ih =>
    rcases h.parents_cases with hnil | ⟨p, hp, hlinear⟩
    · rw [ancestors_of_parents_nil hnil, back?_succ, hnil]
      rfl
    · rw [ancestors_of_parents_singleton hp, back?_succ, hp, List.getElem?_cons_succ]
      exact ih hlinear

/-- In a linear history each commit reaches those that come after it. By induction on the order of
the commits. -/
theorem Linear.pairwise_reaches (h : g.Linear a) : (g.ancestors a).Pairwise g.Reaches := by
  induction a using Nat.strong_induction_on with
  | _ a ih =>
    rcases h.parents_cases with hnil | ⟨p, hp, hlinear⟩
    · rw [ancestors_of_parents_nil hnil]
      exact List.pairwise_singleton _ _
    · have hmem : p ∈ g.parents a := hp ▸ List.mem_cons_self
      rw [ancestors_of_parents_singleton hp]
      refine List.pairwise_cons.mpr ⟨fun c hc => ?_, ih p (parent_lt hmem) hlinear⟩
      exact Relation.ReflTransGen.head hmem (mem_ancestors_iff.mp hc)

/-! ## The commits that are ahead -/

/-- The commits that one commit reaches and another does not, in falling order. -/
def ahead (g : Graph) (a b : Nat) : List Nat := (g.ancestors a).filter (· ∉ g.ancestors b)

theorem mem_ahead_iff : c ∈ g.ahead a b ↔ g.Reaches a c ∧ ¬ g.Reaches b c := by
  unfold ahead
  rw [List.mem_filter, decide_eq_true_iff, mem_ancestors_iff, mem_ancestors_iff]

/-- A filter that lets nothing through after it has stopped something keeps the start of a list. -/
theorem filter_eq_takeWhile {α : Type} {q : α → Bool} {xs : List α}
    (h : xs.Pairwise fun x y => q y = true → q x = true) : xs.filter q = xs.takeWhile q := by
  induction xs with
  | nil => rfl
  | cons x xs ih =>
    obtain ⟨hx, hxs⟩ := List.pairwise_cons.mp h
    by_cases hq : q x = true
    · rw [List.filter_cons_of_pos hq, List.takeWhile_cons_of_pos hq, ih hxs]
    · rw [List.filter_cons_of_neg hq, List.takeWhile_cons_of_neg hq, List.filter_eq_nil_iff]
      exact fun y hy hqy => hq (hx y hy hqy)

theorem Linear.ahead_eq_takeWhile (h : g.Linear a) (b : Nat) :
    g.ahead a b = (g.ancestors a).takeWhile (· ∉ g.ancestors b) := by
  apply filter_eq_takeWhile
  apply h.pairwise_reaches.imp
  intro c d hcd hd
  rw [decide_eq_true_iff, mem_ancestors_iff] at hd ⊢
  exact fun hc => hd (hc.trans hcd)

theorem Linear.back?_of_lt_length_ahead (h : g.Linear a) {n : Nat}
    (hn : n < (g.ahead a b).length) : g.back? n a = (g.ahead a b)[n]? := by
  have hprefix : g.ahead a b <+: g.ancestors a := by
    rw [h.ahead_eq_takeWhile b]
    exact List.takeWhile_prefix _
  rw [h.back?_eq, List.getElem?_eq_getElem hn]
  exact List.prefix_iff_getElem?.mp hprefix n hn

/-- The commit after those that are ahead is the merge base. The line ends there if there is none. -/
theorem Linear.back?_length_ahead (h : g.Linear a) (b : Nat) :
    g.back? (g.ahead a b).length a = g.mergeBase? a b := by
  have hfind : g.mergeBase? a b =
      ((g.ancestors a).dropWhile (· ∉ g.ancestors b)).head? := by
    rw [← List.find?_not_eq_head?_dropWhile]
    simp [mergeBase?]
  have hsplit : g.ahead a b ++ (g.ancestors a).dropWhile (· ∉ g.ancestors b) = g.ancestors a := by
    rw [h.ahead_eq_takeWhile b]
    exact List.takeWhile_append_dropWhile
  rw [h.back?_eq, hfind]
  calc (g.ancestors a)[(g.ahead a b).length]?
      = (g.ahead a b ++ (g.ancestors a).dropWhile (· ∉ g.ancestors b))[(g.ahead a b).length]? := by
        rw [hsplit]
    _ = ((g.ancestors a).dropWhile (· ∉ g.ancestors b))[0]? := by
        rw [List.getElem?_append_right le_rfl, Nat.sub_self]
    _ = ((g.ancestors a).dropWhile (· ∉ g.ancestors b)).head? := List.head?_eq_getElem?.symm

end CommitGate.Graph
