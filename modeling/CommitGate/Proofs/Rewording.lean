import CommitGate.Proofs.Repository

/-!
# Rewording commits

Other messages on the commits of a repository change nothing about its history: revisions lead to
the same commits, the line of the head is the same, and so is the merge base with any base. Commits
keep their hashes, and those that are not reworded keep their messages.
-/

namespace CommitGate

namespace Graph

variable {g : Graph} {message : Nat → Option (List UInt8)}

/-- A graph in which some commits have other messages. -/
def reworded (g : Graph) (message : Nat → Option (List UInt8)) : Graph where
  nodes := g.nodes.mapIdx fun i node => { node with message := (message i).getD node.message }
  ordered := by
    intro i h p hp
    rw [Array.getElem_mapIdx] at hp
    have hi : i < g.nodes.size := by simpa using h
    exact g.ordered i hi p hp

theorem getElem?_nodes_reworded (i : Nat) :
    (g.reworded message).nodes[i]? =
      g.nodes[i]?.map fun node => { node with message := (message i).getD node.message } :=
  Array.getElem?_mapIdx

theorem size_reworded : (g.reworded message).size = g.size := Array.size_mapIdx

theorem parents_reworded (i : Nat) : (g.reworded message).parents i = g.parents i := by
  unfold parents
  rw [getElem?_nodes_reworded]
  cases g.nodes[i]? with
  | none => rfl
  | some node => rfl

theorem back?_reworded (n i : Nat) : (g.reworded message).back? n i = g.back? n i := by
  induction n generalizing i with
  | zero => rfl
  | succ n ih =>
    have hback : (g.reworded message).back? n = g.back? n := funext ih
    rw [back?_succ, back?_succ, parents_reworded, hback]

theorem closure_reworded (n : Nat) (marked : List Nat) :
    (g.reworded message).closure n marked = g.closure n marked := by
  induction n generalizing marked with
  | zero => rfl
  | succ n ih => rw [closure, closure, parents_reworded, ih, ih]

theorem mergeBase?_reworded (a b : Nat) :
    (g.reworded message).mergeBase? a b = g.mergeBase? a b := by
  unfold mergeBase? ancestors
  simp only [closure_reworded]

end Graph

namespace Repository

variable {r : Repository} {message : Nat → Option (List UInt8)}

/-- A repository in which some commits have other messages. -/
def reworded (r : Repository) (message : Nat → Option (List UInt8)) : Repository :=
  { r with graph := r.graph.reworded message }

/-! ## Looking up revisions -/

theorem firstRef?_reworded (names : List Text) :
    (r.reworded message).firstRef? names = r.firstRef? names := by
  induction names with
  | nil => rfl
  | cons name others ih =>
    rw [firstRef?, firstRef?, ih]
    rfl

theorem abbreviated?_reworded (start : Text) :
    (r.reworded message).abbreviated? start = r.abbreviated? start := by
  have hhash : ∀ i : Nat,
      ((r.graph.reworded message).nodes[i]?.any fun node => start.isPrefixOf node.hash) =
        r.graph.nodes[i]?.any fun node => start.isPrefixOf node.hash := by
    intro i
    rw [Graph.getElem?_nodes_reworded]
    cases r.graph.nodes[i]? with
    | none => rfl
    | some node => rfl
  unfold abbreviated? reworded
  simp only [Graph.size_reworded, hhash]

theorem named?_reworded (name : Text) : (r.reworded message).named? name = r.named? name := by
  unfold named?
  rw [firstRef?_reworded, abbreviated?_reworded]
  rfl

theorem move?_reworded (o : Object) (move : Move) :
    (r.reworded message).move? o move = r.move? o move := by
  cases move with
  | ancestor n =>
    cases o with
    | commit i =>
      show ((r.graph.reworded message).back? n i).map Object.commit = _
      rw [Graph.back?_reworded]
      rfl
    | tag target => rfl
    | tree => rfl
    | blob => rfl
  | parent n =>
    cases n with
    | zero => rfl
    | succ n =>
      cases o with
      | commit i =>
        show ((r.graph.reworded message).parents i)[n]?.map Object.commit = _
        rw [Graph.parents_reworded]
        rfl
      | tag target => rfl
      | tree => rfl
      | blob => rfl
  | peel p => rfl

theorem commitOf_reworded (written : Text) :
    (r.reworded message).commitOf written = r.commitOf written := by
  have hmove : (r.reworded message).move? = r.move? := funext fun o => funext (move?_reworded o)
  have hobject : (r.reworded message).object? = r.object? := by
    funext revision
    unfold object?
    rw [named?_reworded, hmove]
  unfold commitOf
  rw [hobject]

/-! ## What a walk sees -/

theorem line_reworded (n : Nat) : (r.reworded message).line n = r.line n := by
  rw [← commitOf_ancestor, ← commitOf_ancestor, commitOf_reworded]

theorem hash_commitAt_reworded (i : Nat) :
    ((r.reworded message).commitAt i).hash = (r.commitAt i).hash := by
  unfold commitAt reworded
  rw [Graph.getElem?_nodes_reworded]
  cases r.graph.nodes[i]? with
  | none => rfl
  | some node => rfl

theorem commitAt_reworded {i : Nat} (h : message i = none) :
    (r.reworded message).commitAt i = r.commitAt i := by
  unfold commitAt reworded
  rw [Graph.getElem?_nodes_reworded, h]
  cases r.graph.nodes[i]? with
  | none => rfl
  | some node => rfl

theorem mergeBaseWith_reworded (base : Text) :
    (r.reworded message).mergeBaseWith base = r.mergeBaseWith base := by
  unfold mergeBaseWith
  simp only [commitOf_reworded, hash_commitAt_reworded]
  simp only [reworded, Graph.mergeBase?_reworded]

theorem mergeBase_source_reworded (base : Text) :
    ((r.reworded message).source base).mergeBase = (r.source base).mergeBase := by
  show ((r.reworded message).mergeBaseWith base).toOption = (r.mergeBaseWith base).toOption
  rw [mergeBaseWith_reworded]

theorem commit_source_reworded {n : Nat} (h : ∀ c, r.line n = some c → message c = none)
    (base : Text) :
    ((r.reworded message).source base).commit n = (r.source base).commit n := by
  rw [source_commit, source_commit, line_reworded]
  cases hc : r.line n with
  | none => rfl
  | some c =>
    rw [Option.map_some, Option.map_some, commitAt_reworded (h c hc)]

end Repository

end CommitGate
