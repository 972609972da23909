import CommitGate.Proofs.LinearHistory
import CommitGate.Proofs.Reviewed
import CommitGate.Proofs.Rewording
import CommitGate.Proofs.Streams
import Mathlib.Data.Set.Function

/-!
# Walks over linear branches

A walk goes no further than an index where the history ends or the boundary lies, and the message
there is of no account. If the history of the head is linear, that index follows those of the
commits that the base does not reach, so that the walk reviews these and no others.
-/

namespace CommitGate

theorem Source.Begins.eq_of_length {source : Source} {cs ds : List Commit} (hcs : source.Begins cs)
    (hds : source.Begins ds) (h : cs.length = ds.length) : cs = ds := by
  apply List.ext_getElem?
  intro i
  by_cases hi : i < cs.length
  · rw [← hcs i hi, ← hds i (by omega)]
  · rw [List.getElem?_eq_none (by omega), List.getElem?_eq_none (by omega)]

namespace Walk

/-! ## Where a walk stops -/

section Stops

variable {source source' : Source} {boundary : Option Text} {limit k n : Nat}

/-- At the index the history ends or the boundary lies. -/
def Stops (source : Source) (boundary : Option Text) (n : Nat) : Prop :=
  ∀ c, source.commit n = some c → boundary = some c.hash

theorem Stops.ends (h : Stops source boundary n) : Ends source boundary limit n := by
  cases hc : source.commit n with
  | none => exact Ends.missing hc
  | some c => exact Ends.atBoundary c hc (h c hc)

theorem Stops.offender?_eq_none (h : Stops source boundary n) :
    offender? source boundary limit n = none := by
  rw [Option.eq_none_iff_forall_ne_some]
  intro c ho
  obtain ⟨-, hc, hb, -⟩ := offender?_eq_some_iff.mp ho
  exact hb (h c hc)

theorem walkOn_of_stops (h : Stops source boundary n) (r : Reporter) (left : Nat) :
    walkOn source r boundary (left + 1) n = .step (.askCommit n) (finish r n) := by
  rw [walkOn]
  cases hc : source.commit n with
  | none => rfl
  | some c => simp only [h c hc, if_true]

/-- Two histories that are the same up to an index where both stop give the same walk. By induction
on the number of commits that may still be reviewed. -/
theorem walkOn_congr (hcommit : ∀ i < k, source.commit i = source'.commit i)
    (hstops : Stops source boundary k) (hstops' : Stops source' boundary k) (r : Reporter)
    (left : Nat) (hn : n ≤ k) :
    walkOn source r boundary left n = walkOn source' r boundary left n := by
  induction left generalizing n with
  | zero => rfl
  | succ left ih =>
    by_cases hlt : n < k
    · rw [walkOn, walkOn, hcommit n hlt, ih hlt]
    · obtain rfl : n = k := by omega
      rw [walkOn_of_stops hstops, walkOn_of_stops hstops']

theorem walk_congr {o : WalkOptions} (hmergeBase : source.mergeBase = source'.mergeBase)
    (hcommit : ∀ i < k, source.commit i = source'.commit i)
    (hstops : Stops source (o.boundary source) k)
    (hstops' : Stops source' (o.boundary source') k) (r : Reporter) :
    walk source o r = walk source' o r := by
  have hboundary : o.boundary source' = o.boundary source := by
    unfold WalkOptions.boundary
    rw [hmergeBase]
  rw [hboundary] at hstops'
  have hwalk := walkOn_congr hcommit hstops hstops' r o.limit (Nat.zero_le k)
  unfold WalkOptions.boundary at hwalk
  unfold walk
  rw [← hmergeBase]
  by_cases hfull : o.full = true
  · rw [if_pos hfull, if_pos hfull]
    rw [if_pos hfull] at hwalk
    rw [hwalk]
  · rw [if_neg hfull, if_neg hfull]
    rw [if_neg hfull] at hwalk
    rw [hwalk]

end Stops

/-! ## Clean walks -/

section Clean

variable {source : Source} {o : WalkOptions} {cs : List Commit}

/-- A walk reviews the given commits, the first of them being the head, and no others. It ends
without a violation and shows nothing but its progress. -/
structure IsCleanOver (source : Source) (o : WalkOptions) (r : Reporter) (cs : List Commit) :
    Prop where
  /-- The walk is clean and counts the commits. -/
  result : ((walk source o r).deliver {}).result = .ok (.clean cs.length)
  /-- They are those that the history begins with. -/
  begins : source.Begins cs
  /-- They are those that show to be reviewed. -/
  shows : ∀ n, Shows source o r n ↔ n < cs.length
  /-- They are announced in order, each of them once. -/
  error : ((walk source o r).deliver {}).error =
    (openingText source o r ++ cs.flatMap (checkingText r) ++ closingText r cs.length).bytes
  /-- Nothing is reported. -/
  output : ((walk source o r).deliver {}).output = []

/-- A walk that may go on to where it stops is clean if all commits before conform. -/
theorem isCleanOver_of_stops (hbegins : source.Begins cs) (hlimit : cs.length ≤ o.limit)
    (hstops : Stops source (o.boundary source) cs.length)
    (hboundary : ∀ c ∈ cs, o.boundary source ≠ some c.hash)
    (hreview : ∀ c ∈ cs, Policy.review c.message = []) (r : Reporter) :
    IsCleanOver source o r cs := by
  have hleast : IsLeast {n | Ends source (o.boundary source) o.limit n} cs.length := by
    refine ⟨hstops.ends, fun n hn => ?_⟩
    by_contra hlt
    have hn' : n < cs.length := by omega
    have hmem : cs[n] ∈ cs := List.getElem_mem hn'
    have hc : source.commit n = some cs[n] := by rw [hbegins n hn', List.getElem?_eq_getElem hn']
    exact not_ends_of_passes ⟨cs[n], hc, hboundary _ hmem, hreview _ hmem⟩ (by omega) hn
  have hnone : offender? source (o.boundary source) o.limit cs.length = none :=
    hstops.offender?_eq_none
  have hresult : (walk source o r).result = .ok (.clean cs.length) :=
    (result_walk hleast r _).mpr ⟨by simp [verdict, hnone], by simp [hnone]⟩
  have hshows : ∀ n, Shows source o r n ↔ n < cs.length := by
    intro n
    constructor
    · intro h
      rcases lt_or_offender_of_reviewed hleast (reviewed_of_shows h) with hlt | ⟨-, c, hc⟩
      · exact hlt
      · rw [hnone] at hc
        cases hc
    · intro h
      exact Shows.counted cs.length hresult h
  obtain ⟨progress, hleaves, herror, houtput⟩ := leaves_of_no_offender hleast hnone r
  have hprogress : progress =
      openingText source o r ++ cs.flatMap (checkingText r) ++ closingText r cs.length := by
    -- the cases on `Leaves` need a variable for the count
    generalize hlength : cs.length = k at hleaves
    cases hleaves with
    | clean ds hds =>
      obtain rfl : cs = ds := hbegins.eq_of_length hds hlength
      rfl
  constructor
  · rw [Transcript.deliver_unlimited, hresult]
    rfl
  · exact hbegins
  · exact hshows
  · rw [Transcript.deliver_unlimited, herror, hprogress]
  · rw [Transcript.deliver_unlimited, houtput]
    rfl

end Clean

end Walk

namespace Repository

variable {r : Repository} {base : Text} {a b c n : Nat}

/-! ## The commits ahead of a base -/

/-- The commit can be reached from the head. -/
def HeadReaches (r : Repository) (c : Nat) : Prop :=
  ∃ a, r.commitOf "HEAD".toList = .ok a ∧ r.graph.Reaches a c

/-- The commits that the head reaches and another commit does not. -/
def ahead (r : Repository) (b : Nat) : List Nat :=
  match r.commitOf "HEAD".toList with
  | .ok a => r.graph.ahead a b
  | .error _ => []

theorem ahead_of_ok (ha : r.commitOf "HEAD".toList = .ok a) (b : Nat) :
    r.ahead b = r.graph.ahead a b := by
  unfold ahead
  rw [ha]

theorem ahead_of_error {f : LookupFailure} (hf : r.commitOf "HEAD".toList = .error f) (b : Nat) :
    r.ahead b = [] := by
  unfold ahead
  rw [hf]

theorem mem_ahead_iff : c ∈ r.ahead b ↔ r.HeadReaches c ∧ ¬ r.graph.Reaches b c := by
  unfold HeadReaches
  cases ha : r.commitOf "HEAD".toList with
  | error f => simp [ahead_of_error ha]
  | ok a => simp [ahead_of_ok ha, Graph.mem_ahead_iff]

theorem nodup_ahead (r : Repository) (b : Nat) : (r.ahead b).Nodup := by
  cases ha : r.commitOf "HEAD".toList with
  | error f =>
    rw [ahead_of_error ha]
    exact List.nodup_nil
  | ok a =>
    rw [ahead_of_ok ha]
    exact ((Graph.pairwise_ancestors r.graph a).imp Nat.ne_of_gt).filter _

/-- In a linear history each of the commits that are ahead reaches the later ones. -/
theorem pairwise_reaches_ahead (hlinear : ∀ c, r.HeadReaches c → (r.graph.parents c).length ≤ 1)
    (b : Nat) : (r.ahead b).Pairwise r.graph.Reaches := by
  cases ha : r.commitOf "HEAD".toList with
  | error f =>
    rw [ahead_of_error ha]
    exact List.Pairwise.nil
  | ok a =>
    have hline : r.graph.Linear a := fun c hc => hlinear c ⟨a, ha, hc⟩
    rw [ahead_of_ok ha]
    exact hline.pairwise_reaches.filter _

/-! ## The line of the head -/

/-- The line of the head is the first-parent line of its commit, unless the head is a tag. -/
theorem ancestor_of_head_ne_tag (h : ∀ target, r.head? ≠ some (.tag target)) (n : Nat) :
    (r.commitOf ("HEAD~".toList ++ Text.ofNat n)).toOption =
      (r.commitOf "HEAD".toList).toOption.bind (r.graph.back? n) := by
  rw [commitOf_ancestor]
  unfold line commitOf
  rw [Revision.parse?_head]
  cases hhead : r.head? with
  | none => simp [object?, named?, hhead, Except.toOption]
  | some o =>
    cases o with
    | commit a => simp [object?, named?, hhead, Object.untagged, Except.toOption]
    | tag target => exact absurd hhead (h target)
    | tree => simp [object?, named?, hhead, Object.untagged, Except.toOption]
    | blob => simp [object?, named?, hhead, Object.untagged, Except.toOption]

section Linear

variable (hsteps : ∀ n, (r.commitOf ("HEAD~".toList ++ Text.ofNat n)).toOption =
    (r.commitOf "HEAD".toList).toOption.bind (r.graph.back? n))
  (hlinear : ∀ c, r.HeadReaches c → (r.graph.parents c).length ≤ 1)
include hsteps hlinear

/-- The line of a linear history starts with the commits that are ahead. -/
theorem line_of_lt_length_ahead (hn : n < (r.ahead b).length) : r.line n = (r.ahead b)[n]? := by
  cases ha : r.commitOf "HEAD".toList with
  | error f =>
    rw [ahead_of_error ha] at hn
    exact absurd hn (Nat.not_lt_zero n)
  | ok a =>
    have hline : r.graph.Linear a := fun c hc => hlinear c ⟨a, ha, hc⟩
    rw [ahead_of_ok ha] at hn ⊢
    rw [← commitOf_ancestor, hsteps, ha]
    exact hline.back?_of_lt_length_ahead hn

/-- After the commits that are ahead, the line of a linear history goes on with the merge base. -/
theorem mergeBase?_of_line_length_ahead (hc : r.line (r.ahead b).length = some c) :
    ∃ a, r.commitOf "HEAD".toList = .ok a ∧ r.graph.mergeBase? a b = some c := by
  rw [← commitOf_ancestor, hsteps] at hc
  cases ha : r.commitOf "HEAD".toList with
  | error f =>
    rw [ha] at hc
    cases hc
  | ok a =>
    have hline : r.graph.Linear a := fun c hc => hlinear c ⟨a, ha, hc⟩
    rw [ahead_of_ok ha, ha] at hc
    refine ⟨a, rfl, ?_⟩
    rw [← hline.back?_length_ahead b]
    exact hc

theorem begins_source_ahead : (r.source base).Begins ((r.ahead b).map r.commitAt) := by
  intro n hn
  rw [List.length_map] at hn
  rw [source_commit, line_of_lt_length_ahead hsteps hlinear hn, List.getElem?_map]

/-- After the commits that are ahead, a walk up to the merge base stops. -/
theorem stops_source_ahead (hb : r.commitOf base = .ok b) :
    Walk.Stops (r.source base) (r.source base).mergeBase (r.ahead b).length := by
  intro c hc
  rw [source_commit, Option.map_eq_some_iff] at hc
  obtain ⟨m, hm, rfl⟩ := hc
  obtain ⟨a, ha, hbase⟩ := mergeBase?_of_line_length_ahead hsteps hlinear hm
  exact source_mergeBase ha hb hbase

end Linear

/-- Other messages do not move the place where a walk stops. -/
theorem stops_source_reworded {message : Nat → Option (List UInt8)}
    (h : Walk.Stops (r.source base) (r.source base).mergeBase n) :
    Walk.Stops ((r.reworded message).source base) ((r.reworded message).source base).mergeBase n := by
  intro c hc
  rw [source_commit, line_reworded, Option.map_eq_some_iff] at hc
  obtain ⟨i, hi, rfl⟩ := hc
  rw [mergeBase_source_reworded, hash_commitAt_reworded]
  apply h
  rw [source_commit, hi]
  rfl

/-- If commits have different hashes, then none that is ahead has the hash of the merge base. -/
theorem mergeBase_ne_of_mem_ahead (hb : r.commitOf base = .ok b)
    (hhash : Set.InjOn (fun c => (r.commitAt c).hash) {c | r.HeadReaches c}) (hc : c ∈ r.ahead b) :
    (r.source base).mergeBase ≠ some (r.commitAt c).hash := by
  obtain ⟨⟨a, ha, hac⟩, hbc⟩ := mem_ahead_iff.mp hc
  intro hboundary
  rw [source_mergeBase_eq ha hb, Option.map_eq_some_iff] at hboundary
  obtain ⟨m, hm, hmc⟩ := hboundary
  obtain ⟨ham, hbm, -⟩ := Graph.mergeBase?_greatest hm
  obtain rfl : m = c := hhash ⟨a, ha, ham⟩ ⟨a, ha, hac⟩ hmc
  exact hbc hbm

end Repository

/-- If no commit that the head reaches has more than one parent, then a walk up to the merge base
with some base is about the commits that the head reaches and the base does not. If they all conform
and the limit allows it, then the walk is clean, and it reviews these commits, each once and the
newest first, and no others. Whatever the messages of the commits that the base reaches are, the walk
is the same. -/
theorem walk_reviews_ahead (r : Repository) (base : Text) (limit : Nat) {b : Nat}
    (hb : r.commitOf base = .ok b)
    (hsteps : ∀ n, (r.commitOf ("HEAD~".toList ++ Text.ofNat n)).toOption =
      (r.commitOf "HEAD".toList).toOption.bind (r.graph.back? n))
    (hlinear : ∀ c, r.HeadReaches c → (r.graph.parents c).length ≤ 1)
    (hhash : Set.InjOn (fun c => (r.commitAt c).hash) {c | r.HeadReaches c})
    (hlimit : (r.ahead b).length ≤ limit) :
    ((∀ c, c ∈ r.ahead b ↔ r.HeadReaches c ∧ ¬ r.graph.Reaches b c) ∧ (r.ahead b).Nodup ∧
      (r.ahead b).Pairwise r.graph.Reaches) ∧
    ((∀ c ∈ r.ahead b, Policy.review (r.commitAt c).message = []) → ∀ reporter : Reporter,
      Walk.IsCleanOver (r.source base) { limit } reporter ((r.ahead b).map r.commitAt)) ∧
    ∀ message : Nat → Option (List UInt8), (∀ c, ¬ r.graph.Reaches b c → message c = none) →
      ∀ reporter : Reporter,
        walk ((r.reworded message).source base) { limit } reporter =
          walk (r.source base) { limit } reporter := by
  have hbegins : (r.source base).Begins ((r.ahead b).map r.commitAt) :=
    Repository.begins_source_ahead hsteps hlinear
  have hstops : Walk.Stops (r.source base) (r.source base).mergeBase (r.ahead b).length :=
    Repository.stops_source_ahead hsteps hlinear hb
  refine ⟨⟨fun c => Repository.mem_ahead_iff, Repository.nodup_ahead r b,
    Repository.pairwise_reaches_ahead hlinear b⟩, fun hreview reporter => ?_,
    fun message hmessage reporter => ?_⟩
  · apply Walk.isCleanOver_of_stops hbegins
    · rw [List.length_map]
      exact hlimit
    · rw [List.length_map]
      exact hstops
    · intro c hc
      obtain ⟨i, hi, rfl⟩ := List.mem_map.mp hc
      exact Repository.mergeBase_ne_of_mem_ahead hb hhash hi
    · intro c hc
      obtain ⟨i, hi, rfl⟩ := List.mem_map.mp hc
      exact hreview i hi
  · apply Walk.walk_congr (Repository.mergeBase_source_reworded base) _
      (Repository.stops_source_reworded hstops) hstops reporter
    intro n hn
    apply Repository.commit_source_reworded
    intro c hc
    rw [Repository.line_of_lt_length_ahead hsteps hlinear hn] at hc
    have hmem : c ∈ r.ahead b := List.mem_of_getElem? hc
    exact hmessage c (Repository.mem_ahead_iff.mp hmem).2

/-- A branch of two commits. The start of `main` that it goes back to has a message that violates the
policy, and `main` itself went on with a merge. -/
def Repository.lexerBranch : Repository where
  graph :=
    ((((Graph.empty.push ⟨"a0".toList, Text.bytes "wip\n".toList, []⟩).push
      ⟨"b1".toList, Text.bytes "Add a lexer\n".toList, [0]⟩).push
      ⟨"c2".toList, Text.bytes "Test the lexer\n".toList, [1]⟩).push
      ⟨"d3".toList, Text.bytes "Start the parser\n".toList, [0]⟩).push
      ⟨"e4".toList, Text.bytes "Merge the parser\n".toList, [0, 3]⟩
  refs := [("refs/heads/main".toList, .commit 4), ("refs/heads/lexer".toList, .commit 2)]
  head := .symbolic "refs/heads/lexer".toList

theorem Repository.headReaches_lexerBranch {c : Nat} (h : lexerBranch.HeadReaches c) :
    c ∈ [2, 1, 0] := by
  obtain ⟨a, ha, hac⟩ := h
  have hhead : lexerBranch.commitOf "HEAD".toList = .ok 2 := by decide +kernel
  have hancestors : lexerBranch.graph.ancestors 2 = [2, 1, 0] := by decide +kernel
  rw [hhead] at ha
  cases ha
  rw [← hancestors]
  exact Graph.mem_ancestors_iff.mpr hac

/-- A walk in `lexerBranch` reviews the two commits of the branch, whatever the message of the commit
that they start from. -/
theorem walk_reviews_ahead_lexerBranch :
    Repository.lexerBranch.commitOf "main".toList = .ok 4 ∧
    Repository.lexerBranch.ahead 4 = [2, 1] ∧
    Policy.review (Repository.lexerBranch.commitAt 0).message ≠ [] ∧
    (∀ reporter : Reporter,
      Walk.IsCleanOver (Repository.lexerBranch.source "main".toList) { limit := 2 } reporter
        [⟨"c2".toList, "Test the lexer\n".toList⟩, ⟨"b1".toList, "Add a lexer\n".toList⟩]) ∧
    ∀ (start : List UInt8) (reporter : Reporter),
      walk ((Repository.lexerBranch.reworded fun c => if c = 0 then some start else none).source
          "main".toList) { limit := 2 } reporter =
        walk (Repository.lexerBranch.source "main".toList) { limit := 2 } reporter := by
  have hmain : Repository.lexerBranch.commitOf "main".toList = .ok 4 := by decide +kernel
  have hhead : Repository.lexerBranch.head? = some (.commit 2) := by decide +kernel
  have hparents : ∀ c ∈ [2, 1, 0], (Repository.lexerBranch.graph.parents c).length ≤ 1 := by
    decide +kernel
  have hhashes : ∀ c ∈ [2, 1, 0], ∀ d ∈ [2, 1, 0],
      (Repository.lexerBranch.commitAt c).hash = (Repository.lexerBranch.commitAt d).hash →
        c = d := by
    decide +kernel
  have hahead : Repository.lexerBranch.ahead 4 = [2, 1] := by decide +kernel
  have hcommits : [2, 1].map Repository.lexerBranch.commitAt =
      [⟨"c2".toList, "Test the lexer\n".toList⟩, ⟨"b1".toList, "Add a lexer\n".toList⟩] := by
    decide +kernel
  have hshared : Repository.lexerBranch.graph.Reaches 4 0 :=
    Relation.ReflTransGen.single (by decide +kernel)
  obtain ⟨-, hclean, hreworded⟩ :=
    walk_reviews_ahead Repository.lexerBranch "main".toList 2 hmain
      (Repository.ancestor_of_head_ne_tag (by rw [hhead]; intro target h; cases h))
      (fun c hc => hparents c (Repository.headReaches_lexerBranch hc))
      (fun c hc d hd => hhashes c (Repository.headReaches_lexerBranch hc) d
        (Repository.headReaches_lexerBranch hd))
      (by rw [hahead]; decide)
  rw [hahead] at hclean
  refine ⟨hmain, hahead, by decide +kernel, fun reporter => ?_, fun start reporter => ?_⟩
  · rw [← hcommits]
    exact hclean (by decide +kernel) reporter
  · apply hreworded
    intro c hc
    -- `main` reaches the start of the branch, so that no other commit is reworded
    rw [if_neg]
    rintro rfl
    exact hc hshared

end CommitGate
