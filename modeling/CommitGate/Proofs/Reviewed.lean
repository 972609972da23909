import CommitGate.Proofs.Walk

/-!
# What a walk reviews

A walk reviews the commits that it comes to before it has a reason to end, and the one whose message
is that reason. Whatever a walk shows to have been reviewed, by counting, reporting or announcing
it, was reviewed, and the last reviewed commit shows.
-/

namespace CommitGate.Walk

variable {source : Source} {o : WalkOptions} {r : Reporter} {k n : Nat}

/-- The commit at an index is reviewed: it is below the limit and not the boundary, and the walk
passes all commits before it. -/
structure Reviewed (source : Source) (o : WalkOptions) (n : Nat) : Prop where
  /-- The limit is not reached. -/
  below : n < o.limit
  /-- There is a commit, and it is not the boundary. -/
  commit : ∃ c, source.commit n = some c ∧ o.boundary source ≠ some c.hash
  /-- No earlier commit ends the walk. -/
  passes : ∀ i < n, Passes source (o.boundary source) i

/-- The line that announces a commit. -/
def checkingLine (r : Reporter) (c : Commit) : Step :=
  .write .error (Text.line (paint r.color (checkingPieces c.hash c.message)))

/-- The last commit that a walk asks for. -/
def lastAsked (source : Source) (o : WalkOptions) (r : Reporter) : Option Nat :=
  (commitsAsked (walk source o r).steps).getLast?

/-- The ways in which a walk shows that it reviewed the commit at an index. -/
inductive Shows (source : Source) (o : WalkOptions) (r : Reporter) (n : Nat) : Prop where
  /-- The walk is clean and counts the commit. -/
  | counted (checked : Nat) (h : (walk source o r).result = .ok (.clean checked)) (hn : n < checked)
  /-- The outcome names the commit. -/
  | reported (c : Commit) (count : Nat) (hc : source.commit n = some c)
      (hlast : lastAsked source o r = some n)
      (h : (walk source o r).result = .ok (.violations c.hash count))
  /-- A line announces the commit just after it was asked for. -/
  | announced (c : Commit) (hc : source.commit n = some c)
      (h : [.askCommit n, checkingLine r c] <:+: (walk source o r).steps)
  /-- The report on the commit cannot be laid out. -/
  | refused (e : LayoutError) (hlast : lastAsked source o r = some n)
      (h : (walk source o r).result = .error e)

/-! ## Reviewed commits and the end of a walk -/

section EndOfWalk

variable (hk : IsLeast {n | Ends source (o.boundary source) o.limit n} k)
include hk

/-- The commits before the end of a walk are reviewed. -/
theorem reviewed_of_lt (hn : n < k) : Reviewed source o n := by
  have hle := le_limit_of_isLeast hk
  obtain ⟨c, hc, hb, -⟩ := passes_of_isLeast hk hn
  exact ⟨by omega, ⟨c, hc, hb⟩, fun i hi => passes_of_isLeast hk (by omega)⟩

/-- The offender at the end of a walk is reviewed. -/
theorem reviewed_of_offender {c : Commit}
    (h : offender? source (o.boundary source) o.limit k = some c) : Reviewed source o k := by
  obtain ⟨hlt, hc, hb, -⟩ := offender?_eq_some_iff.mp h
  exact ⟨hlt, ⟨c, hc, hb⟩, fun i hi => passes_of_isLeast hk hi⟩

/-- A reviewed commit lies before the end of the walk, or is the offender there. -/
theorem lt_or_offender_of_reviewed (h : Reviewed source o n) :
    n < k ∨ n = k ∧ ∃ c, offender? source (o.boundary source) o.limit k = some c := by
  obtain ⟨hlt, ⟨c, hc, hb⟩, hpass⟩ := h
  have hnk : n ≤ k := by
    by_contra hkn
    exact not_ends_of_passes (hpass k (by omega)) (by omega) hk.1
  by_cases heq : n = k
  · subst heq
    refine Or.inr ⟨rfl, c, offender?_eq_some_iff.mpr ⟨hlt, hc, hb, ?_⟩⟩
    cases hk.1 with
    | atLimit h => omega
    | missing h => rw [hc] at h; cases h
    | atBoundary d hd h => rw [hc] at hd; cases hd; exact absurd h hb
    | violating d hd h => rw [hc] at hd; cases hd; exact h
  · exact Or.inl (by omega)

/-- A walk with an offender asks for it last. -/
theorem lastAsked_of_offender {c : Commit}
    (h : offender? source (o.boundary source) o.limit k = some c) (r : Reporter) :
    lastAsked source o r = some k := by
  have hlt := (offender?_eq_some_iff.mp h).1
  rw [lastAsked, commitsAsked_walk hk, Nat.min_eq_left (by omega), List.range_succ]
  simp

/-- A walk without a clean outcome has an offender. -/
theorem exists_offender
    (h : ∀ checked, (walk source o r).result ≠ .ok (.clean checked)) :
    ∃ c, offender? source (o.boundary source) o.limit k = some c := by
  cases ho : offender? source (o.boundary source) o.limit k with
  | some c => exact ⟨c, rfl⟩
  | none =>
    have hclean : (walk source o r).result = .ok (.clean k) :=
      (result_walk hk r _).mpr ⟨by simp [verdict, ho], by simp [ho]⟩
    exact absurd hclean (h k)

/-- The last commit that a walk without a clean outcome asks for is reviewed. -/
theorem reviewed_of_lastAsked (hlast : lastAsked source o r = some n)
    (h : ∀ checked, (walk source o r).result ≠ .ok (.clean checked)) : Reviewed source o n := by
  obtain ⟨c, hc⟩ := exists_offender hk h
  rw [lastAsked_of_offender hk hc] at hlast
  cases hlast
  exact reviewed_of_offender hk hc

end EndOfWalk

/-! ## Announcements -/

/-- In a list where an element occurs once, what follows it is determined. -/
theorem head?_of_once {α : Type} {x y : α} {before after : List α} (hb : x ∉ before)
    (ha : x ∉ after) (h : [x, y] <:+: before ++ x :: after) : after.head? = some y := by
  obtain ⟨s, t, hst⟩ := h
  have hsplit : before ++ x :: after = s ++ x :: (y :: t) := by rw [← hst]; simp
  obtain ⟨-, -, hafter⟩ := (List.append_cons_inj_of_notMem hb ha).mp hsplit
  rw [hafter]
  rfl

theorem mem_commitsAsked_iff {steps : List Step} : n ∈ commitsAsked steps ↔ .askCommit n ∈ steps := by
  unfold commitsAsked
  rw [List.mem_filterMap]
  constructor
  · rintro ⟨s, hs, hn⟩
    cases s with
    | askCommit i => cases hn; exact hs
    | askMergeBase => cases hn
    | write stream t => cases hn
  · intro h
    exact ⟨_, h, rfl⟩

/-- No line at the end of a walk looks like an announcement. -/
theorem head?_steps_finish (r : Reporter) (checked : Nat) (c : Commit) :
    (finish r checked).steps.head? ≠ some (checkingLine r c) := by
  -- the painted lines first differ in the number of the second style
  have hgreen : Nat.toDigits 10 32 = ['3', '2'] := by decide
  have hcyan : Nat.toDigits 10 36 = ['3', '6'] := by decide
  rw [steps_finish, Reporter.steps_progress]
  unfold Reporter.detail checkingLine
  cases r.color <;> split <;> split <;>
    simp [Transcript.write, Transcript.steps, Text.line, paint, Piece.paint, checkingPieces,
      finishedPieces, controlSequence, Style.number, Text.ofNat, hgreen, hcyan]

/-- An announced commit is reviewed. -/
theorem reviewed_of_announced (hk : IsLeast {n | Ends source (o.boundary source) o.limit n} k)
    {c : Commit} (h : [.askCommit n, checkingLine r c] <:+: (walk source o r).steps) :
    Reviewed source o n := by
  have hle := le_limit_of_isLeast hk
  have hasked : n ∈ commitsAsked (walk source o r).steps :=
    mem_commitsAsked_iff.mpr (h.subset (List.mem_cons_self ..))
  rw [commitsAsked_walk hk, List.mem_range] at hasked
  by_cases hn : n < k
  · exact reviewed_of_lt hk hn
  · obtain rfl : n = k := by omega
    cases ho : offender? source (o.boundary source) o.limit n with
    | some c => exact reviewed_of_offender hk ho
    | none =>
      -- the walk would have gone on to its last lines, and none of them announces a commit
      have hopening : n ∉ commitsAsked (openingSteps source o r ++
          (List.range n).flatMap (passSteps source r)) := by
        rw [commitsAsked_append, commitsAsked_run, commitsAsked_openingSteps]
        simp
      have hfinish : n ∉ commitsAsked (finish r n).steps := by simp [steps_finish]
      rw [mem_commitsAsked_iff] at hopening hfinish
      rw [(walk_run hk r).1, closingSteps, walkOn_of_no_offender hk.1 hle ho, if_pos (by omega)] at h
      exact absurd (head?_of_once hopening hfinish h) (head?_steps_finish r n c)

/-! ## What shows -/

/-- What a walk shows to be reviewed is reviewed. -/
theorem reviewed_of_shows (h : Shows source o r n) : Reviewed source o n := by
  obtain ⟨k, hk⟩ := exists_least_end source (o.boundary source) o.limit
  cases h with
  | counted checked h hn =>
    obtain ⟨hv, -⟩ := (result_walk hk r _).mp h
    have hchecked : checked = k := by
      unfold verdict at hv
      split at hv
      · cases hv
      · cases hv; rfl
    exact reviewed_of_lt hk (by omega)
  | reported c count hc hlast h =>
    refine reviewed_of_lastAsked hk hlast fun checked hclean => ?_
    rw [hclean] at h
    cases h
  | announced c hc h => exact reviewed_of_announced hk h
  | refused e hlast h =>
    refine reviewed_of_lastAsked hk hlast fun checked hclean => ?_
    rw [hclean] at h
    cases h

/-- If a commit is reviewed, it shows itself or a later one does. -/
theorem exists_shows_of_reviewed (h : Reviewed source o n) (r : Reporter) :
    ∃ i, n ≤ i ∧ Shows source o r i := by
  obtain ⟨k, hk⟩ := exists_least_end source (o.boundary source) o.limit
  cases ho : offender? source (o.boundary source) o.limit k with
  | none =>
    have hclean : (walk source o r).result = .ok (.clean k) :=
      (result_walk hk r _).mpr ⟨by simp [verdict, ho], by simp [ho]⟩
    rcases lt_or_offender_of_reviewed hk h with hlt | ⟨-, c, hc⟩
    · exact ⟨n, Nat.le_refl n, Shows.counted k hclean hlt⟩
    · rw [ho] at hc
      cases hc
  | some c =>
    have hnk : n ≤ k := by
      rcases lt_or_offender_of_reviewed hk h with hlt | ⟨heq, -⟩ <;> omega
    have hlast := lastAsked_of_offender hk ho r
    have hc := (offender?_eq_some_iff.mp ho).2.1
    cases hres : (walk source o r).result with
    | error e => exact ⟨k, hnk, Shows.refused e hlast hres⟩
    | ok outcome =>
      obtain ⟨hv, -⟩ := (result_walk hk r outcome).mp hres
      simp only [verdict, ho] at hv
      subst hv
      exact ⟨k, hnk, Shows.reported c _ hc hlast hres⟩

end CommitGate.Walk
