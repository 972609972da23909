import CommitGate.Proofs.Walk

/-!
# What a walk leaves on its streams

Progress comes first on the error stream: where the walk will end, each commit that is reviewed, and
for a clean walk how it ended. The report on a commit that violates the policy follows, on the error
stream as text or on the output stream as a document, and nothing else goes to the output stream. A
quiet reporter leaves out all progress and nothing of the report.
-/

namespace CommitGate

/-! ## Texts among steps -/

/-- The text that a step writes to a stream. -/
def Step.writtenTo (stream : Stream) : Step → Text
  | .write target t => if target = stream then t else []
  | .askMergeBase => []
  | .askCommit _ => []

/-- All that steps write to a stream, in order. -/
def writtenBy (stream : Stream) (steps : List Step) : Text := steps.flatMap (Step.writtenTo stream)

@[simp] theorem writtenBy_nil (stream : Stream) : writtenBy stream [] = [] := rfl

@[simp] theorem writtenBy_append (stream : Stream) (ss ts : List Step) :
    writtenBy stream (ss ++ ts) = writtenBy stream ss ++ writtenBy stream ts := List.flatMap_append

@[simp] theorem writtenBy_askMergeBase (stream : Stream) (ss : List Step) :
    writtenBy stream (.askMergeBase :: ss) = writtenBy stream ss := rfl

@[simp] theorem writtenBy_askCommit (stream : Stream) (n : Nat) (ss : List Step) :
    writtenBy stream (.askCommit n :: ss) = writtenBy stream ss := rfl

theorem writtenBy_write (stream target : Stream) (t : Text) :
    writtenBy stream [.write target t] = if target = stream then t else [] := List.append_nil _

theorem Transcript.written_eq {α : Type} (t : Transcript α) (stream : Stream) :
    t.written stream = writtenBy stream t.steps := by
  induction t with
  | done a => rfl
  | refused e => rfl
  | step s rest ih =>
    cases s with
    | askMergeBase => exact ih
    | askCommit n => exact ih
    | write target x =>
      rw [steps, writtenBy, List.flatMap_cons, ← writtenBy, ← ih, written, Step.writtenTo]
      split_ifs
      · rfl
      · rfl

/-! ## Progress and details -/

namespace Reporter

/-- A line of progress, which a quiet reporter leaves out. -/
def progressText (r : Reporter) (pieces : List Piece) : Text :=
  if r.quiet then [] else Text.line (paint r.color pieces)

/-- A line of detail, which only a verbose reporter that is not quiet writes. -/
def detailText (r : Reporter) (t : Text) : Text :=
  if 0 < r.verbosity ∧ ¬ r.quiet then Text.line t else []

theorem progressText_of_quiet {r : Reporter} (h : r.quiet = true) (pieces : List Piece) :
    r.progressText pieces = [] := if_pos h

theorem detailText_of_quiet {r : Reporter} (h : r.quiet = true) (t : Text) :
    r.detailText t = [] := if_neg fun hshown => hshown.2 h

theorem writtenBy_progress (r : Reporter) (pieces : List Piece) (stream : Stream) :
    writtenBy stream (r.progress pieces).steps =
      if stream = .error then r.progressText pieces else [] := by
  rw [steps_progress]
  unfold progressText
  by_cases hquiet : r.quiet = true
  · simp [hquiet]
  · cases stream with
    | error => simp [hquiet, writtenBy_write]
    | output => simp [hquiet, writtenBy_write]

theorem writtenBy_detail (r : Reporter) (t : Text) (stream : Stream) :
    writtenBy stream (r.detail t).steps = if stream = .error then r.detailText t else [] := by
  unfold detail detailText
  by_cases hshown : 0 < r.verbosity ∧ ¬ r.quiet
  · rw [if_pos hshown, if_pos hshown]
    cases stream with
    | error => exact writtenBy_write .error .error _
    | output => exact writtenBy_write .output .error _
  · rw [if_neg hshown, if_neg hshown]
    exact (ite_self []).symm

theorem steps_report_text {r : Reporter} {report : Report} {t : Text} (hformat : r.format = .text)
    (hne : report.diagnostics ≠ []) (ht : report.text r.color = .ok t) :
    (r.report report).steps = [.write .error t] := by
  simp [Reporter.report, hne, hformat, ht, Transcript.write, Transcript.steps]

theorem steps_report_json {r : Reporter} {report : Report} (hformat : r.format = .json)
    (hne : report.diagnostics ≠ []) :
    (r.report report).steps = [.write .output (Text.line report.document)] := by
  simp [Reporter.report, hne, hformat, Transcript.write, Transcript.steps]

end Reporter

/-! ## The commits that are announced -/

/-- A history goes back through the given commits, the first of them being its head. -/
def Source.Begins (source : Source) (cs : List Commit) : Prop :=
  ∀ i < cs.length, source.commit i = cs[i]?

theorem Source.Begins.append {source : Source} {cs : List Commit} {c : Commit}
    (h : source.Begins cs) (hc : source.commit cs.length = some c) : source.Begins (cs ++ [c]) := by
  intro i hi
  rw [List.length_append, List.length_singleton] at hi
  by_cases hlt : i < cs.length
  · rw [h i hlt, List.getElem?_append_left hlt]
  · obtain rfl : i = cs.length := by omega
    rw [hc, List.getElem?_concat_length]

namespace Walk

variable {source : Source} {o : WalkOptions} {r : Reporter} {k : Nat}

/-- The line that announces the review of a commit. -/
def checkingText (r : Reporter) (c : Commit) : Text :=
  r.progressText (checkingPieces c.hash c.message)

/-- The line about where a walk will end. -/
def openingText (source : Source) (o : WalkOptions) (r : Reporter) : Text :=
  r.detailText <|
    if o.full then "Full mode: ignoring merge-base".toList
    else boundaryDetail o.limit source.mergeBase

/-- The lines that end a clean walk. -/
def closingText (r : Reporter) (checked : Nat) : Text :=
  r.detailText ("Checked ".toList ++ Text.count checked "commit".toList) ++
    r.progressText finishedPieces

/-- What a walk leaves: its progress, the text that reports a violation, and the documents on the
output stream. -/
inductive Leaves (source : Source) (o : WalkOptions) (r : Reporter) :
    Outcome → (progress report documents : Text) → Prop where
  /-- A clean walk leaves progress only: where it will end, the commits that it reviews, how many
  they were, and that it finished. -/
  | clean (cs : List Commit) (hcs : source.Begins cs) :
      Leaves source o r (.clean cs.length)
        (openingText source o r ++ cs.flatMap (checkingText r) ++ closingText r cs.length) [] []
  /-- A violation is reported as text. -/
  | text (cs : List Commit) (c : Commit) (t : Text) (hformat : r.format = .text)
      (hcs : source.Begins (cs ++ [c])) (hbad : Policy.review c.message ≠ [])
      (ht : c.report.text r.color = .ok t) :
      Leaves source o r (.violations c.hash (Policy.review c.message).length)
        (openingText source o r ++ (cs ++ [c]).flatMap (checkingText r)) t []
  /-- A violation is reported as a JSON document. -/
  | json (cs : List Commit) (c : Commit) (hformat : r.format = .json)
      (hcs : source.Begins (cs ++ [c])) (hbad : Policy.review c.message ≠ []) :
      Leaves source o r (.violations c.hash (Policy.review c.message).length)
        (openingText source o r ++ (cs ++ [c]).flatMap (checkingText r)) []
        (Text.line c.report.document)

/-- A quiet walk leaves no progress. -/
theorem Leaves.progress_eq_nil {outcome : Outcome} {progress report documents : Text}
    (h : Leaves source o r outcome progress report documents) (hquiet : r.quiet = true) :
    progress = [] := by
  have hopening : openingText source o r = [] := Reporter.detailText_of_quiet hquiet _
  have hchecking : ∀ cs : List Commit, cs.flatMap (checkingText r) = [] := fun cs =>
    List.flatMap_eq_nil_iff.mpr fun c _ => Reporter.progressText_of_quiet hquiet _
  cases h with
  | clean cs hcs =>
    rw [hopening, hchecking, closingText, Reporter.detailText_of_quiet hquiet,
      Reporter.progressText_of_quiet hquiet]
    rfl
  | text cs c t => rw [hopening, hchecking]; rfl
  | json cs c => rw [hopening, hchecking]; rfl

/-! ## Parts of a walk -/

theorem writtenBy_openingSteps (source : Source) (o : WalkOptions) (r : Reporter)
    (stream : Stream) :
    writtenBy stream (openingSteps source o r) =
      if stream = .error then openingText source o r else [] := by
  unfold openingSteps openingText
  by_cases hfull : o.full = true
  · simp only [hfull, if_true, r.writtenBy_detail]
  · simp only [hfull, Bool.false_eq_true, if_false, writtenBy_askMergeBase, r.writtenBy_detail]

theorem writtenBy_finish (r : Reporter) (checked : Nat) (stream : Stream) :
    writtenBy stream (finish r checked).steps =
      if stream = .error then closingText r checked else [] := by
  rw [steps_finish, writtenBy_append, r.writtenBy_detail, r.writtenBy_progress, closingText]
  split_ifs
  · rfl
  · rfl

theorem writtenBy_passSteps {n : Nat} {c : Commit} (hc : source.commit n = some c) (r : Reporter)
    (stream : Stream) :
    writtenBy stream (passSteps source r n) =
      if stream = .error then checkingText r c else [] := by
  simp only [passSteps, hc, writtenBy_askCommit, r.writtenBy_progress, checkingText]

/-- The commits that a walk passes are announced one after the other. By induction on their
number. -/
theorem exists_announced (r : Reporter) (boundary : Option Text) (k : Nat)
    (h : ∀ i < k, Passes source boundary i) :
    ∃ cs : List Commit, cs.length = k ∧ source.Begins cs ∧ ∀ stream,
      writtenBy stream ((List.range k).flatMap (passSteps source r)) =
        if stream = .error then cs.flatMap (checkingText r) else [] := by
  induction k with
  | zero => exact ⟨[], rfl, fun i hi => absurd hi (Nat.not_lt_zero i), fun stream => by simp⟩
  | succ k ih =>
    obtain ⟨cs, hlength, hbegins, hwritten⟩ := ih fun i hi => h i (by omega)
    obtain ⟨c, hc, -, -⟩ := h k (by omega)
    have hnext : source.commit cs.length = some c := by rw [hlength, hc]
    refine ⟨cs ++ [c], by simp [hlength], hbegins.append hnext, fun stream => ?_⟩
    rw [List.range_succ, List.flatMap_append, writtenBy_append, hwritten, List.flatMap_singleton,
      writtenBy_passSteps hc, List.flatMap_append, List.flatMap_singleton]
    split_ifs
    · rfl
    · rfl

/-! ## A whole walk -/

variable (hk : IsLeast {n | Ends source (o.boundary source) o.limit n} k)
include hk

/-- A walk without an offender leaves what a clean walk does. -/
theorem leaves_of_no_offender
    (ho : offender? source (o.boundary source) o.limit k = none) (r : Reporter) :
    ∃ progress, Leaves source o r (.clean k) progress [] [] ∧
      (walk source o r).written .error = progress ∧ (walk source o r).written .output = [] := by
  obtain ⟨cs, hlength, hbegins, hwritten⟩ :=
    exists_announced r (o.boundary source) k fun i hi => passes_of_isLeast hk hi
  have hclosing : ∀ stream, writtenBy stream (closingSteps source o r k) =
      if stream = .error then closingText r k else [] := by
    intro stream
    rw [closingSteps, walkOn_of_no_offender hk.1 (le_limit_of_isLeast hk) ho]
    split_ifs <;> simp [Transcript.steps, writtenBy_finish, *]
  subst hlength
  refine ⟨_, .clean cs hbegins, ?_, ?_⟩
  · rw [Transcript.written_eq, (walk_run hk r).1, writtenBy_append, writtenBy_append,
      writtenBy_openingSteps, hwritten, hclosing]
    rfl
  · rw [Transcript.written_eq, (walk_run hk r).1, writtenBy_append, writtenBy_append,
      writtenBy_openingSteps, hwritten, hclosing]
    rfl

/-- A walk up to an offender leaves what its report does, unless the report is refused. -/
theorem leaves_of_offender {c : Commit}
    (ho : offender? source (o.boundary source) o.limit k = some c) (hr : ¬ r.Refuses c.report) :
    ∃ progress report documents,
      Leaves source o r (.violations c.hash (Policy.review c.message).length) progress report
        documents ∧
      (walk source o r).written .error = progress ++ report ∧
      (walk source o r).written .output = documents := by
  obtain ⟨-, hc, -, hbad⟩ := offender?_eq_some_iff.mp ho
  obtain ⟨cs, hlength, hbegins, hwritten⟩ :=
    exists_announced r (o.boundary source) k fun i hi => passes_of_isLeast hk hi
  have hnext : source.commit cs.length = some c := by rw [hlength, hc]
  have hwhole : ∀ stream, (walk source o r).written stream =
      (if stream = .error then
          openingText source o r ++ (cs ++ [c]).flatMap (checkingText r) else []) ++
        writtenBy stream (r.report c.report).steps := by
    intro stream
    rw [Transcript.written_eq, (walk_run hk r).1, closingSteps, (walkOn_of_offender ho r).1]
    simp only [writtenBy_append, writtenBy_openingSteps, hwritten, writtenBy_passSteps hc,
      List.flatMap_append, List.flatMap_singleton]
    split_ifs <;> simp
  cases hformat : r.format with
  | text =>
    have hfits : c.report.fits = true := by
      by_contra hno
      exact hr ⟨hformat, Bool.not_eq_true _ ▸ hno⟩
    have ht : c.report.text r.color = .ok (paint r.color c.report.pieces) := if_pos hfits
    refine ⟨_, _, _, .text cs c _ hformat (hbegins.append hnext) hbad ht, ?_, ?_⟩
    · rw [hwhole, Reporter.steps_report_text hformat hbad ht]
      simp [writtenBy_write]
    · rw [hwhole, Reporter.steps_report_text hformat hbad ht]
      simp [writtenBy_write]
  | json =>
    refine ⟨_, _, _, .json cs c hformat (hbegins.append hnext) hbad, ?_, ?_⟩
    · rw [hwhole, Reporter.steps_report_json hformat hbad]
      simp [writtenBy_write]
    · rw [hwhole, Reporter.steps_report_json hformat hbad]
      simp [writtenBy_write]

end Walk

/-- A walk that comes to an end leaves on the error stream its progress and then the text of its
report, and on the output stream the document of its report, as the outcome says. If it is quiet, it
leaves no progress. -/
theorem walk_leaves (source : Source) (o : WalkOptions) (r : Reporter) {outcome : Outcome}
    (h : ((walk source o r).deliver {}).result = .ok outcome) :
    ∃ progress report documents,
      Walk.Leaves source o r outcome progress report documents ∧
      ((walk source o r).deliver {}).error = (progress ++ report).bytes ∧
      ((walk source o r).deliver {}).output = documents.bytes ∧
      (r.quiet = true → progress = []) := by
  obtain ⟨k, hk⟩ := Walk.exists_least_end source (o.boundary source) o.limit
  have hresult : (walk source o r).result = .ok outcome := by
    rw [Transcript.deliver_unlimited] at h
    cases hr : (walk source o r).result with
    | error e => rw [hr] at h; cases h
    | ok outcome' => rw [hr] at h; cases h; rfl
  obtain ⟨rfl, hrefuses⟩ := (Walk.result_walk hk r outcome).mp hresult
  rw [Transcript.deliver_unlimited]
  cases ho : Walk.offender? source (o.boundary source) o.limit k with
  | none =>
    obtain ⟨progress, hleaves, herror, houtput⟩ := Walk.leaves_of_no_offender hk ho r
    refine ⟨progress, [], [], ?_, ?_, ?_, hleaves.progress_eq_nil⟩
    · simpa only [Walk.verdict, ho] using hleaves
    · rw [herror, List.append_nil]
    · rw [houtput]
  | some c =>
    obtain ⟨progress, report, documents, hleaves, herror, houtput⟩ :=
      Walk.leaves_of_offender hk ho (hrefuses c ho)
    refine ⟨progress, report, documents, ?_, ?_, ?_, hleaves.progress_eq_nil⟩
    · simpa only [Walk.verdict, ho] using hleaves
    · rw [herror]
    · rw [houtput]

/-- A walk with details over a single bad commit. -/
theorem walk_leaves_wip :
    ((walk (.single ⟨"f1d2d2f924".toList, "wip".toList⟩ none) { limit := 500 }
        { verbosity := 1 }).deliver {}).result = .ok (.violations "f1d2d2f924".toList 1) ∧
      ∃ progress report documents,
        Walk.Leaves (.single ⟨"f1d2d2f924".toList, "wip".toList⟩ none) { limit := 500 }
          { verbosity := 1 } (.violations "f1d2d2f924".toList 1) progress report documents ∧
        ((walk (.single ⟨"f1d2d2f924".toList, "wip".toList⟩ none) { limit := 500 }
          { verbosity := 1 }).deliver {}).error = (progress ++ report).bytes ∧
        ((walk (.single ⟨"f1d2d2f924".toList, "wip".toList⟩ none) { limit := 500 }
          { verbosity := 1 }).deliver {}).output = documents.bytes ∧
        (false = true → progress = []) := by
  have hresult : ((walk (.single ⟨"f1d2d2f924".toList, "wip".toList⟩ none) { limit := 500 }
      { verbosity := 1 }).deliver {}).result = .ok (.violations "f1d2d2f924".toList 1) := by
    decide +kernel
  exact ⟨hresult, walk_leaves _ _ _ hresult⟩

end CommitGate
