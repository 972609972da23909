import CommitGate.Proofs.Cleanup
import CommitGate.Proofs.Conformity
import CommitGate.Proofs.Walk

/-!
# A single message and a history of one commit

The review of a message before it is recorded, and a walk over the history whose only commit has
that message, come to the same. Unless details are wanted, the walk adds the line that announces the
commit, and its document names the commit. Nor does it matter that recording a cleaned message adds
a line feed.
-/

namespace CommitGate

open Policy

/-- The end of a walk over a single commit with so many diagnostics. -/
def Commit.outcome (c : Commit) (count : Nat) : Outcome :=
  if count = 0 then .clean 1 else .violations c.hash count

theorem Commit.exitCode_outcome (c : Commit) (count : Nat) :
    (c.outcome count).exitCode = exitCodeFor count := by
  unfold Commit.outcome
  split_ifs with h
  · rw [h]
    rfl
  · rfl

/-- The line that announces a commit, unless the reporter is quiet. -/
def Reporter.announcement (r : Reporter) (c : Commit) : Text :=
  if r.quiet then [] else Text.line (paint r.color (checkingPieces c.hash c.message))

/-- A JSON document whose first field is the commit. -/
def documentWith (commit : Json) (fields : List (Text × Json)) : Text :=
  Text.line (Json.object (("commit".toList, commit) :: fields)).document

/-- A walk over a single commit and the review of a message come to the same. -/
structure AgreesWithHook (r : Reporter) (c : Commit) (walked : Delivery Outcome)
    (hooked : Delivery Nat) : Prop where
  /-- Both give the same number of diagnostics, or are refused. -/
  result : walked.result = hooked.result.map c.outcome
  /-- The exit codes are the same. -/
  exitCode : walked.result.map Outcome.exitCode = hooked.result.map exitCodeFor
  /-- The walk announces the commit, and then writes the same to the error stream. -/
  error : walked.error = (r.announcement c).bytes ++ hooked.error
  /-- Nothing goes to the output stream if reports are text or there is none. -/
  silent : r.format = .text ∨ review c.message = [] → walked.output = [] ∧ hooked.output = []
  /-- JSON documents differ in the field of the commit alone. -/
  documents : r.format = .json → review c.message ≠ [] →
    ∃ fields, walked.output = (documentWith (.string c.hash) fields).bytes ∧
      hooked.output = (documentWith .null fields).bytes

/-! ## What the walk does -/

/-- A walk over a single commit asks for it, announces it, and reviews its message. -/
theorem walk_single {r : Reporter} (h : r.verbosity = 0) (c : Commit) (mergeBase : Option Text) :
    walk (.single c mergeBase) { full := true, limit := 1 } r =
      .step (.askCommit 0) ((r.progress (checkingPieces c.hash c.message)).andThen fun _ =>
        (reviewAs r (some c.hash) c.message).andThen fun count => .done (c.outcome count)) := by
  by_cases hclean : review c.message = []
  · -- the walk goes on to its limit, and says there that it has finished
    rw [reviewAs_of_conforms hclean]
    simp [walk, Walk.walkOn, Walk.finish, Source.single, Reporter.detail_eq_done h, hclean,
      Transcript.andThen_assoc, Commit.outcome]
  · simp [walk, Walk.walkOn, Source.single, Reporter.detail_eq_done h, hclean, reviewAs,
      Transcript.andThen_assoc, Commit.outcome]

/-- The result of a review does not depend on the commit that its report names. -/
theorem result_reviewAs_eq (r : Reporter) (commit : Option Text) (m : Text) :
    (reviewAs r commit m).result = (reviewMessage r m).result :=
  (result_reviewAs r commit m).trans (result_reviewMessage r m).symm

/-- Nor does what a review writes to the error stream. -/
theorem written_error_reviewAs (r : Reporter) (commit : Option Text) (m : Text) :
    (reviewAs r commit m).written .error = (reviewMessage r m).written .error := by
  rw [← reviewAs_none]
  by_cases hclean : review m = []
  · rw [reviewAs_of_conforms hclean, reviewAs_of_conforms hclean]
  · cases hformat : r.format with
    | text => rw [reviewAs_text hformat, reviewAs_text hformat]
    | json =>
      rw [reviewAs_json hformat hclean, reviewAs_json hformat hclean]
      rfl

theorem written_error_progress_checking (r : Reporter) (c : Commit) :
    (r.progress (checkingPieces c.hash c.message)).written .error = r.announcement c := by
  unfold Reporter.progress Reporter.announcement
  split_ifs
  · rfl
  · exact List.append_nil _

/-- Only documents go to the output stream. -/
theorem written_output_reviewAs {r : Reporter} {m : Text} (h : r.format = .text ∨ review m = [])
    (commit : Option Text) : (reviewAs r commit m).written .output = [] := by
  by_cases hclean : review m = []
  · rw [reviewAs_of_conforms hclean, Transcript.written_map, Reporter.written_output_progress]
  · have hformat := h.resolve_right hclean
    simp only [reviewAs, Reporter.report, hformat, if_neg hclean]
    cases (Report.mk commit m (review m)).text r.color <;> rfl

/-! ## Agreement -/

section Single

variable {r : Reporter} (h : r.verbosity = 0) (c : Commit) (mergeBase : Option Text)
include h

theorem result_walk_single :
    (walk (.single c mergeBase) { full := true, limit := 1 } r).result =
      (reviewMessage r c.message).result.map c.outcome := by
  rw [walk_single h, ← result_reviewAs_eq r (some c.hash), ← Transcript.result_map]
  simp only [Transcript.result, Transcript.result_andThen, Reporter.result_progress]
  rfl

theorem written_walk_single (stream : Stream) :
    (walk (.single c mergeBase) { full := true, limit := 1 } r).written stream =
      (r.progress (checkingPieces c.hash c.message)).written stream ++
        (reviewAs r (some c.hash) c.message).written stream := by
  rw [walk_single h, ← Transcript.written_map (reviewAs r (some c.hash) c.message) c.outcome]
  exact Transcript.written_andThen (r.result_progress _) _ stream

/-- A walk over a single commit agrees with the review of its message. -/
theorem agreesWithHook :
    AgreesWithHook r c
      ((walk (.single c mergeBase) { full := true, limit := 1 } r).deliver {})
      ((reviewMessage r c.message).deliver {}) := by
  rw [Transcript.deliver_unlimited, Transcript.deliver_unlimited]
  constructor
  case result =>
    show Except.mapError _ _ = Except.map _ (Except.mapError _ _)
    rw [result_walk_single h]
    cases (reviewMessage r c.message).result <;> rfl
  case exitCode =>
    show Except.map _ (Except.mapError _ _) = Except.map _ (Except.mapError _ _)
    rw [result_walk_single h]
    cases (reviewMessage r c.message).result with
    | error e => rfl
    | ok count => exact congrArg Except.ok (c.exitCode_outcome count)
  case error =>
    show Text.bytes _ = _ ++ Text.bytes _
    rw [written_walk_single h, written_error_progress_checking, written_error_reviewAs,
      Text.bytes_append]
  case silent =>
    intro hsilent
    have hhook := written_output_reviewAs hsilent none
    rw [reviewAs_none] at hhook
    show Text.bytes _ = [] ∧ Text.bytes _ = []
    rw [written_walk_single h, Reporter.written_output_progress, written_output_reviewAs hsilent,
      hhook]
    exact ⟨rfl, rfl⟩
  case documents =>
    intro hformat hdiagnostics
    show ∃ fields, Text.bytes _ = _ ∧ Text.bytes _ = _
    rw [written_walk_single h, Reporter.written_output_progress, ← reviewAs_none,
      reviewAs_json hformat hdiagnostics, reviewAs_json hformat hdiagnostics,
      Transcript.written_map, Transcript.written_map, Transcript.written_write,
      Transcript.written_write, List.nil_append]
    exact ⟨_, rfl, rfl⟩

end Single

/-! ## Recorded messages -/

/-- What comes of a review depends on the lines of the message alone. -/
theorem reviewAs_congr {m m' : Text} (h : m.lines = m'.lines) (r : Reporter)
    (commit : Option Text) : reviewAs r commit m = reviewAs r commit m' := by
  simp only [reviewAs, review_congr h, r.report_congr h]

/-- Recording a cleaned message changes nothing about its review. A message without any content
gains an empty line, and there is nothing to say about that. -/
theorem reviewAs_line_cleanup (r : Reporter) (commit : Option Text) (raw : Text) :
    reviewAs r commit (Text.line (cleanup raw)) = reviewAs r commit (cleanup raw) := by
  by_cases hempty : cleanup raw = []
  · have hfeed : review ['\n'] = [] := by decide +kernel
    have hnone : review [] = [] := by decide +kernel
    rw [hempty]
    exact (reviewAs_of_conforms hfeed r commit).trans (reviewAs_of_conforms hnone r commit).symm
  · exact reviewAs_congr (lines_line_cleanup hempty) r commit

theorem review_line_cleanup (raw : Text) :
    review (Text.line (cleanup raw)) = review (cleanup raw) := by
  by_cases hempty : cleanup raw = []
  · rw [hempty]
    decide +kernel
  · exact review_congr (lines_line_cleanup hempty)

/-- A full walk over a single commit and the review of its message before it is recorded agree. They
also do if the recorded message is a cleaned one with the line feed that recording adds. -/
theorem walk_agrees_with_hook {r : Reporter} (h : r.verbosity = 0) (hash : Text)
    (mergeBase : Option Text) :
    (∀ m : Text,
      AgreesWithHook r ⟨hash, m⟩
        ((walk (.single ⟨hash, m⟩ mergeBase) { full := true, limit := 1 } r).deliver {})
        ((reviewMessage r m).deliver {})) ∧
    ∀ raw : Text,
      let recorded := Text.line (cleanup raw)
      review recorded = review (cleanup raw) ∧
      AgreesWithHook r ⟨hash, recorded⟩
        ((walk (.single ⟨hash, recorded⟩ mergeBase) { full := true, limit := 1 } r).deliver {})
        ((reviewMessage r (cleanup raw)).deliver {}) := by
  refine ⟨fun m => agreesWithHook h ⟨hash, m⟩ mergeBase, fun raw => ⟨review_line_cleanup raw, ?_⟩⟩
  have hagrees := agreesWithHook h ⟨hash, Text.line (cleanup raw)⟩ mergeBase
  rwa [← reviewAs_none, reviewAs_line_cleanup, reviewAs_none] at hagrees

/-- The review of a bad message as a document, before it is recorded and in a walk. -/
theorem wip_agrees_with_hook :
    review "wip".toList ≠ [] ∧
      AgreesWithHook { format := .json } ⟨"f1d2d2f924".toList, "wip".toList⟩
        ((walk (.single ⟨"f1d2d2f924".toList, "wip".toList⟩ none) { full := true, limit := 1 }
          { format := .json }).deliver {})
        ((reviewMessage { format := .json } "wip".toList).deliver {}) :=
  ⟨by decide +kernel,
    (walk_agrees_with_hook (r := { format := .json }) rfl "f1d2d2f924".toList none).1 "wip".toList⟩

end CommitGate
