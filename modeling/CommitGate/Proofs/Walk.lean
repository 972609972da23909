import CommitGate.Walk
import CommitGate.Proofs.Reporter
import Mathlib.Order.Bounds.Basic
import Mathlib.Order.Lattice.Nat

/-!
# Where a walk ends

A walk passes the indexes of commits that are no reason to end, one after the other, and ends at the
first index that is one. What it asks for and how it ends depend on the history, the limit and the
boundary alone; the reporter only decides what is shown, and whether a report can be laid out.
-/

namespace CommitGate

/-- The hash at which a walk ends, unless it is a full one. -/
def WalkOptions.boundary (o : WalkOptions) (source : Source) : Option Text :=
  if o.full then none else source.mergeBase

/-- The history with a single commit. -/
def Source.single (c : Commit) (mergeBase : Option Text) : Source where
  commit n := if n = 0 then some c else none
  mergeBase := mergeBase

/-- The report on a commit. -/
def Commit.report (c : Commit) : Report := ⟨some c.hash, c.message, Policy.review c.message⟩

namespace Walk

section Ends

variable (source : Source) (boundary : Option Text) (limit : Nat)

/-- The reasons for a walk to go no further than an index. -/
inductive Ends (n : Nat) : Prop where
  /-- No more commits may be reviewed. -/
  | atLimit (h : n = limit)
  /-- The history does not go back that far. -/
  | missing (h : source.commit n = none)
  /-- The commit is the boundary. -/
  | atBoundary (c : Commit) (hc : source.commit n = some c) (h : boundary = some c.hash)
  /-- The message of the commit violates the policy. -/
  | violating (c : Commit) (hc : source.commit n = some c) (h : Policy.review c.message ≠ [])

/-- A walk passes a commit that is not the boundary and conforms to the policy. -/
def Passes (n : Nat) : Prop :=
  ∃ c, source.commit n = some c ∧ boundary ≠ some c.hash ∧ Policy.review c.message = []

/-- The commit at an index if its message ends a walk that gets there. -/
def offender? (n : Nat) : Option Commit :=
  if n < limit then
    (source.commit n).filter fun c => boundary ≠ some c.hash ∧ Policy.review c.message ≠ []
  else none

/-- How a walk ends that goes as far as an index. -/
def verdict (n : Nat) : Outcome :=
  match offender? source boundary limit n with
  | some c => .violations c.hash (Policy.review c.message).length
  | none => .clean n

variable {source boundary limit}

variable (source boundary limit) in
/-- There is a first index with a reason to end, since the limit is one. -/
theorem exists_least_end : ∃ k, IsLeast {n | Ends source boundary limit n} k :=
  ⟨sInf {n | Ends source boundary limit n},
    Nat.sInf_mem ⟨limit, Ends.atLimit rfl⟩, fun _ h => Nat.sInf_le h⟩

theorem passes_of_not_ends {n : Nat} (h : ¬ Ends source boundary limit n) :
    Passes source boundary n := by
  cases hc : source.commit n with
  | none => exact absurd (Ends.missing hc) h
  | some c =>
    refine ⟨c, hc, fun hb => h (Ends.atBoundary c hc hb), ?_⟩
    by_contra hr
    exact h (Ends.violating c hc hr)

theorem not_ends_of_passes {n : Nat} (h : Passes source boundary n) (hn : n < limit) :
    ¬ Ends source boundary limit n := by
  obtain ⟨c, hc, hb, hr⟩ := h
  intro hends
  cases hends with
  | atLimit h => omega
  | missing h => rw [hc] at h; cases h
  | atBoundary d hd h => rw [hc] at hd; cases hd; exact hb h
  | violating d hd h => rw [hc] at hd; cases hd; exact h hr

theorem offender?_eq_some_iff {n : Nat} {c : Commit} :
    offender? source boundary limit n = some c ↔
      n < limit ∧ source.commit n = some c ∧ boundary ≠ some c.hash ∧
        Policy.review c.message ≠ [] := by
  unfold offender?
  split_ifs with hn
  · simp [hn, Option.filter_eq_some_iff]
  · simp [hn]

end Ends

/-! ## One step -/

section Step

variable {source : Source} {boundary : Option Text} {limit : Nat}

/-- The steps of a walk at an index that it passes. -/
def passSteps (source : Source) (r : Reporter) (n : Nat) : List Step :=
  .askCommit n ::
    match source.commit n with
    | none => []
    | some c => (r.progress (checkingPieces c.hash c.message)).steps

/-- At an index that it passes a walk asks for the commit, announces it and goes on. -/
theorem walkOn_of_passes {n : Nat} (h : Passes source boundary n) (r : Reporter) (left : Nat) :
    (walkOn source r boundary (left + 1) n).steps =
        passSteps source r n ++ (walkOn source r boundary left (n + 1)).steps ∧
      (walkOn source r boundary (left + 1) n).result =
        (walkOn source r boundary left (n + 1)).result := by
  obtain ⟨c, hc, hb, hr⟩ := h
  have hstep : walkOn source r boundary (left + 1) n =
      .step (.askCommit n) ((r.progress (checkingPieces c.hash c.message)).andThen fun _ =>
        walkOn source r boundary left (n + 1)) := by
    simp only [walkOn, hc, hb, hr, if_true, if_false]
  rw [hstep]
  constructor
  · have hs := Transcript.steps_andThen (r.result_progress (checkingPieces c.hash c.message))
      fun _ => walkOn source r boundary left (n + 1)
    simp only [Transcript.steps, passSteps, hc, hs, List.cons_append]
  · simp only [Transcript.result, Transcript.result_andThen, Reporter.result_progress]
    rfl

/-- A walk runs through indexes that it passes. -/
theorem walkOn_run (r : Reporter) (left : Nat) :
    ∀ {m n : Nat}, (∀ i, n ≤ i → i < n + m → Passes source boundary i) →
      (walkOn source r boundary (m + left) n).steps =
          (List.range' n m).flatMap (passSteps source r) ++
            (walkOn source r boundary left (n + m)).steps ∧
        (walkOn source r boundary (m + left) n).result =
          (walkOn source r boundary left (n + m)).result := by
  intro m
  induction m with
  | zero => intro n _; simp
  | succ m ih =>
    intro n h
    obtain ⟨hs, hr⟩ := walkOn_of_passes (h n le_rfl (by omega)) r (m + left)
    obtain ⟨hs', hr'⟩ := ih (n := n + 1) fun i hi hi' => h i (by omega) (by omega)
    have hleft : m + 1 + left = m + left + 1 := by omega
    have hn : n + (m + 1) = n + 1 + m := by omega
    rw [hleft, hn]
    exact ⟨by rw [hs, hs', List.range'_succ, List.flatMap_cons, List.append_assoc],
      by rw [hr, hr']⟩

theorem commitsAsked_passSteps (source : Source) (r : Reporter) (n : Nat) :
    commitsAsked (passSteps source r n) = [n] := by
  unfold passSteps
  split <;> simp

theorem mergeBaseAsked_passSteps (source : Source) (r : Reporter) (n : Nat) :
    mergeBaseAsked (passSteps source r n) = 0 := by
  unfold passSteps
  split <;> simp

/-- A run through indexes asks for each of them once, in order. -/
theorem commitsAsked_run (source : Source) (r : Reporter) (ns : List Nat) :
    commitsAsked (ns.flatMap (passSteps source r)) = ns := by
  induction ns with
  | nil => rfl
  | cons n ns ih => simp [commitsAsked_passSteps, ih]

theorem mergeBaseAsked_run (source : Source) (r : Reporter) (ns : List Nat) :
    mergeBaseAsked (ns.flatMap (passSteps source r)) = 0 := by
  induction ns with
  | nil => rfl
  | cons n ns ih => simp [mergeBaseAsked_passSteps, ih]

end Step

/-! ## The last step -/

section Last

variable {source : Source} {boundary : Option Text} {limit k : Nat}

theorem result_finish (r : Reporter) (checked : Nat) :
    (finish r checked).result = .ok (.clean checked) := by
  simp only [finish, Transcript.result_andThen, Reporter.result_detail, Reporter.result_progress]
  rfl

theorem steps_finish (r : Reporter) (checked : Nat) :
    (finish r checked).steps =
      (r.detail ("Checked ".toList ++ Text.count checked "commit".toList)).steps ++
        (r.progress finishedPieces).steps := by
  rw [finish, Transcript.steps_andThen (r.result_detail _),
    Transcript.steps_andThen (r.result_progress _)]
  simp [Transcript.steps]

/-- A walk that comes to an offender asks for it, announces it and reports it. -/
theorem walkOn_of_offender {c : Commit} (h : offender? source boundary limit k = some c)
    (r : Reporter) :
    (walkOn source r boundary (limit - k) k).steps =
        passSteps source r k ++ (r.report c.report).steps ∧
      (walkOn source r boundary (limit - k) k).result =
        if r.Refuses c.report then .error .fieldTooWide
        else .ok (.violations c.hash (Policy.review c.message).length) := by
  obtain ⟨hk, hc, hb, hr⟩ := offender?_eq_some_iff.mp h
  obtain ⟨left, hleft⟩ : ∃ left, limit - k = left + 1 := ⟨limit - k - 1, by omega⟩
  have hlast : walkOn source r boundary (limit - k) k =
      .step (.askCommit k) ((r.progress (checkingPieces c.hash c.message)).andThen fun _ =>
        (r.report c.report).andThen fun _ =>
          .done (.violations c.hash (Policy.review c.message).length)) := by
    simp only [hleft, walkOn, hc, hb, hr, if_false, Commit.report]
  rw [hlast]
  constructor
  · have hs := Transcript.steps_andThen (r.result_progress (checkingPieces c.hash c.message))
      fun _ => (r.report c.report).andThen fun _ =>
        Transcript.done (Outcome.violations c.hash (Policy.review c.message).length)
    have hreport : ((r.report c.report).andThen fun _ => Transcript.done
        (Outcome.violations c.hash (Policy.review c.message).length)).steps =
          (r.report c.report).steps := by
      cases hres : (r.report c.report).result with
      | ok a => simp [Transcript.steps_andThen hres, Transcript.steps]
      | error e => exact Transcript.steps_andThen_of_refused hres _
    simp only [Transcript.steps, passSteps, hc, hs, hreport, List.cons_append]
  · simp only [Transcript.result, Transcript.result_andThen, Reporter.result_progress,
      Reporter.result_report]
    split <;> rfl

/-- A walk that ends without an offender has asked for a last commit only below the limit. -/
theorem walkOn_of_no_offender (h : Ends source boundary limit k) (hk : k ≤ limit)
    (ho : offender? source boundary limit k = none) (r : Reporter) :
    walkOn source r boundary (limit - k) k =
      if k < limit then .step (.askCommit k) (finish r k) else finish r k := by
  split_ifs with hlt
  · obtain ⟨left, hleft⟩ : ∃ left, limit - k = left + 1 := ⟨limit - k - 1, by omega⟩
    have hnot : ∀ c, source.commit k = some c → boundary ≠ some c.hash →
        Policy.review c.message = [] := fun c hc hb => by
      by_contra hr
      rw [offender?_eq_some_iff.mpr ⟨hlt, hc, hb, hr⟩] at ho
      exact absurd ho (by simp)
    rw [hleft, walkOn]
    cases h with
    | atLimit h => omega
    | missing h => rw [h]
    | atBoundary c hc hb => simp only [hc, hb, if_true]
    | violating c hc hr =>
      have hb : boundary = some c.hash := by
        by_contra hb
        exact hr (hnot c hc hb)
      simp only [hc, hb, if_true]
  · have hzero : limit - k = 0 := by omega
    rw [hzero, walkOn]

/-- How a walk ends at an index with a reason to. -/
theorem result_walkOn_of_ends (h : Ends source boundary limit k) (hk : k ≤ limit)
    (r : Reporter) (outcome : Outcome) :
    (walkOn source r boundary (limit - k) k).result = .ok outcome ↔
      outcome = verdict source boundary limit k ∧
        ∀ c, offender? source boundary limit k = some c → ¬ r.Refuses c.report := by
  cases ho : offender? source boundary limit k with
  | none =>
    have hres : (walkOn source r boundary (limit - k) k).result = .ok (.clean k) := by
      rw [walkOn_of_no_offender h hk ho]
      split <;> exact result_finish r k
    simp [hres, verdict, ho, eq_comm]
  | some c =>
    rw [(walkOn_of_offender ho r).2]
    split_ifs with href
    · simp [href]
    · simp [verdict, ho, href, eq_comm]

/-- What a walk asks for at the index where it ends. -/
theorem asks_walkOn_of_ends (h : Ends source boundary limit k) (hk : k ≤ limit) (r : Reporter) :
    commitsAsked (walkOn source r boundary (limit - k) k).steps =
        (if k < limit then [k] else []) ∧
      mergeBaseAsked (walkOn source r boundary (limit - k) k).steps = 0 := by
  cases ho : offender? source boundary limit k with
  | none =>
    rw [walkOn_of_no_offender h hk ho]
    split_ifs <;> simp [Transcript.steps, steps_finish]
  | some c =>
    have hlt := (offender?_eq_some_iff.mp ho).1
    obtain ⟨hasked, hbase⟩ := r.report_asks_nothing c.report
    rw [(walkOn_of_offender ho r).1]
    simp [commitsAsked_passSteps, mergeBaseAsked_passSteps, hasked, hbase, hlt]

end Last

/-! ## A whole walk -/

section Whole

variable {source : Source} {o : WalkOptions} {k : Nat}

/-- The steps of a walk before it looks at commits. -/
def openingSteps (source : Source) (o : WalkOptions) (r : Reporter) : List Step :=
  if o.full then (r.detail "Full mode: ignoring merge-base".toList).steps
  else .askMergeBase :: (r.detail (boundaryDetail o.limit source.mergeBase)).steps

theorem commitsAsked_openingSteps (source : Source) (o : WalkOptions) (r : Reporter) :
    commitsAsked (openingSteps source o r) = [] := by
  unfold openingSteps
  split <;> simp

/-- The steps of a walk at the index where it ends. -/
def closingSteps (source : Source) (o : WalkOptions) (r : Reporter) (k : Nat) : List Step :=
  (walkOn source r (o.boundary source) (o.limit - k) k).steps

/-- Before anything else, a walk settles its boundary. -/
theorem walk_opening (source : Source) (o : WalkOptions) (r : Reporter) :
    (walk source o r).steps =
        openingSteps source o r ++ (walkOn source r (o.boundary source) o.limit 0).steps ∧
      (walk source o r).result = (walkOn source r (o.boundary source) o.limit 0).result := by
  cases hf : o.full with
  | true =>
    simp only [walk, openingSteps, WalkOptions.boundary, hf, if_true, Transcript.result_andThen,
      Reporter.result_detail, Transcript.steps_andThen (r.result_detail _)]
    exact ⟨trivial, rfl⟩
  | false =>
    simp only [walk, openingSteps, WalkOptions.boundary, hf, Bool.false_eq_true, if_false,
      Transcript.steps, Transcript.result, Transcript.result_andThen, Reporter.result_detail,
      Transcript.steps_andThen (r.result_detail _)]
    exact ⟨rfl, rfl⟩

/-- The exit code of a verdict is zero just if it is clean. -/
theorem exitCode_verdict (source : Source) (boundary : Option Text) (limit n : Nat) :
    (verdict source boundary limit n).exitCode = 0 ↔
      ∃ checked, verdict source boundary limit n = .clean checked := by
  unfold verdict
  split
  next c hc =>
    have hr := (offender?_eq_some_iff.mp hc).2.2.2
    simp [Outcome.exitCode, exitCodeFor_eq_zero_iff, hr]
  next => simp [Outcome.exitCode]

variable (hk : IsLeast {n | Ends source (o.boundary source) o.limit n} k)
include hk

theorem le_limit_of_isLeast : k ≤ o.limit := hk.2 (Ends.atLimit rfl)

/-- A walk passes all indexes before the first with a reason to end. -/
theorem passes_of_isLeast {i : Nat} (hi : i < k) : Passes source (o.boundary source) i :=
  passes_of_not_ends fun h : Ends source (o.boundary source) o.limit i =>
    absurd (hk.2 h) (by omega)

/-- A walk takes the steps of its opening and of the indexes that it passes, and then those at the
index where it ends, which give its result. -/
theorem walk_run (r : Reporter) :
    (walk source o r).steps =
        openingSteps source o r ++ (List.range k).flatMap (passSteps source r) ++
          closingSteps source o r k ∧
      (walk source o r).result = (walkOn source r (o.boundary source) (o.limit - k) k).result := by
  have hle := le_limit_of_isLeast hk
  obtain ⟨hs, hr⟩ := walkOn_run r (o.limit - k) (m := k) (n := 0)
    fun i _ hi => passes_of_isLeast hk (by omega)
  have hsum : k + (o.limit - k) = o.limit := by omega
  rw [hsum, Nat.zero_add] at hs hr
  obtain ⟨hopen, hres⟩ := walk_opening source o r
  constructor
  · rw [hopen, hs, closingSteps, List.range_eq_range', List.append_assoc]
  · rw [hres, hr]

/-- The result of a walk is the verdict at its end, unless the report there is refused. -/
theorem result_walk (r : Reporter) (outcome : Outcome) :
    (walk source o r).result = .ok outcome ↔
      outcome = verdict source (o.boundary source) o.limit k ∧
        ∀ c, offender? source (o.boundary source) o.limit k = some c → ¬ r.Refuses c.report := by
  rw [(walk_run hk r).2]
  exact result_walkOn_of_ends hk.1 (le_limit_of_isLeast hk) r outcome

/-- A walk ends in the verdict or is refused, whatever its outcome would be. -/
theorem result_walk_eq (r : Reporter) :
    (walk source o r).result =
      if ∀ c ∈ offender? source (o.boundary source) o.limit k, ¬ r.Refuses c.report then
        .ok (verdict source (o.boundary source) o.limit k)
      else .error .fieldTooWide := by
  split_ifs with h
  · exact (result_walk hk r _).mpr ⟨rfl, h⟩
  · cases hr : (walk source o r).result with
    | error e => cases e; rfl
    | ok outcome => exact absurd ((result_walk hk r outcome).mp hr).2 h

/-- A walk asks for the commits up to the index where it ends, each once and in order. -/
theorem commitsAsked_walk (r : Reporter) :
    commitsAsked (walk source o r).steps = List.range (min (k + 1) o.limit) := by
  have hle := le_limit_of_isLeast hk
  rw [(walk_run hk r).1, commitsAsked_append, commitsAsked_append, commitsAsked_openingSteps,
    commitsAsked_run, closingSteps, (asks_walkOn_of_ends hk.1 hle r).1, List.nil_append]
  split_ifs with hlt
  · rw [Nat.min_eq_left (by omega), List.range_succ]
  · rw [Nat.min_eq_right (by omega), List.append_nil, Nat.le_antisymm hle (by omega)]

/-- A walk asks for the merge base once, and a full walk never. -/
theorem mergeBaseAsked_walk (r : Reporter) :
    mergeBaseAsked (walk source o r).steps = if o.full then 0 else 1 := by
  have hle := le_limit_of_isLeast hk
  rw [(walk_run hk r).1, mergeBaseAsked_append, mergeBaseAsked_append, mergeBaseAsked_run,
    closingSteps, (asks_walkOn_of_ends hk.1 hle r).2]
  unfold openingSteps
  split <;> simp

end Whole

end Walk

/-- A walk ends at the first index that is the limit, is not in the history, is the boundary or
violates the policy. It asks for the commits up to there and no others, and for the merge base once
unless it is full. It comes to an end unless the report on the offender is refused, and its outcome
then is the verdict at that index, whatever the reporter. -/
theorem walk_ends_at_first_reason (source : Source) (o : WalkOptions) :
    ∃ k, IsLeast {n | Walk.Ends source (o.boundary source) o.limit n} k ∧
      (∀ r : Reporter,
        let run := (walk source o r).deliver {}
        commitsAsked run.steps = List.range (min (k + 1) o.limit) ∧
        mergeBaseAsked run.steps = (if o.full then 0 else 1) ∧
        ∀ outcome, run.result = .ok outcome ↔
          outcome = Walk.verdict source (o.boundary source) o.limit k ∧
            ∀ c, Walk.offender? source (o.boundary source) o.limit k = some c →
              ¬ r.Refuses c.report) ∧
      let outcome := Walk.verdict source (o.boundary source) o.limit k
      (outcome.exitCode = 0 ↔ ∃ checked, outcome = .clean checked) ∧
      ∀ hash count, outcome = .violations hash count →
        outcome.exitCode = min count 255 ∧ outcome.exitCode ≠ 0 := by
  obtain ⟨k, hk⟩ := Walk.exists_least_end source (o.boundary source) o.limit
  refine ⟨k, hk, fun r => ?_, Walk.exitCode_verdict .., fun hash count hv => ?_⟩
  · have hresult : ∀ outcome, ((walk source o r).deliver {}).result = .ok outcome ↔
        (walk source o r).result = .ok outcome := by
      intro outcome
      rw [Transcript.deliver_unlimited]
      cases (walk source o r).result <;> simp [Except.mapError]
    simp only [Transcript.deliver_unlimited] at hresult ⊢
    exact ⟨Walk.commitsAsked_walk hk r, Walk.mergeBaseAsked_walk hk r,
      fun outcome => (hresult outcome).trans (Walk.result_walk hk r outcome)⟩
  · refine ⟨by rw [hv]; rfl, fun hzero => ?_⟩
    obtain ⟨checked, hclean⟩ := (Walk.exitCode_verdict ..).mp hzero
    rw [hv] at hclean
    exact absurd hclean (by simp)

end CommitGate
