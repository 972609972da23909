import CommitGate.Text.Basic

/-!
# The commit graph

Commits are numbered so that parents come before their children. Whatever can be reached from a
commit then has a smaller number, so that going back in history ends, and of the common ancestors of
two commits the one with the greatest number is no ancestor of another.
-/

namespace CommitGate

/-- A commit with its parents. -/
structure Node where
  /-- The name of the commit. -/
  hash : Text
  /-- The message, as it is stored. -/
  message : List UInt8
  /-- The numbers of the parents, the first parent first. -/
  parents : List Nat

/-- Commits with their parents, the parents first. -/
structure Graph where
  /-- The commits by their numbers. -/
  nodes : Array Node
  /-- Parents come before their children. -/
  ordered : ∀ (i : Nat) (h : i < nodes.size), ∀ p ∈ nodes[i].parents, p < i

namespace Graph

/-- The graph without commits. -/
def empty : Graph := ⟨#[], fun i h => absurd h (Nat.not_lt_zero i)⟩

/-- A graph with one more commit. Only commits of the graph can be its parents. -/
def push (g : Graph) (node : Node) : Graph where
  nodes := g.nodes.push { node with parents := node.parents.filter (· < g.nodes.size) }
  ordered := by
    intro i h p hp
    rw [Array.getElem_push] at hp
    split at hp
    next hi => exact g.ordered i hi p hp
    next hi =>
      have hsize : i < g.nodes.size + 1 := by simpa using h
      have hlt : p < g.nodes.size := by simpa using (List.mem_filter.mp hp).2
      omega

/-- The number of commits. -/
def size (g : Graph) : Nat := g.nodes.size

/-- The parents of a commit. -/
def parents (g : Graph) (i : Nat) : List Nat := (g.nodes[i]?.map Node.parents).getD []

/-- The commit so many first parents back, if the history goes back that far. -/
def back? (g : Graph) : (steps commit : Nat) → Option Nat
  | 0, i => some i
  | n + 1, i => (g.parents i).head?.bind (g.back? n)

/-- All that can be reached from marked commits among the first `n`, in falling order. -/
def closure (g : Graph) : (n : Nat) → (marked : List Nat) → List Nat
  | 0, _ => []
  | i + 1, marked =>
    if i ∈ marked then i :: g.closure i (g.parents i ++ marked) else g.closure i marked

/-- A commit and all that can be reached from it, in falling order. -/
def ancestors (g : Graph) (i : Nat) : List Nat := g.closure (i + 1) [i]

/-- The best common ancestor of two commits, if their histories have one. -/
def mergeBase? (g : Graph) (a b : Nat) : Option Nat :=
  let shared := g.ancestors b
  (g.ancestors a).find? (· ∈ shared)

end Graph

end CommitGate
