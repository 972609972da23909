import CommitGate.Walk
import CommitGate.Proofs.Reporter

/-!
# Sinks of limited capacity

A walk and the review of a message write their document last, after everything that goes to the
error stream. Therefore what sinks with room for so many bytes hold in the end, and whether the run
comes to its result, can be told from the run against sinks that take everything: the first byte
without room ends the run, and all bytes before it are kept.
-/

namespace CommitGate

variable {α β : Type}

/-! ## Deliveries cut short -/

theorem Delivery.length_error_afterBytes (d : Delivery α) (bs : List UInt8) :
    (d.afterBytes .error bs).error.length = bs.length + d.error.length := List.length_append

theorem Delivery.length_output_afterBytes (d : Delivery α) (bs : List UInt8) :
    (d.afterBytes .output bs).output.length = bs.length + d.output.length := List.length_append

/-- What a run becomes against sinks for `e` bytes on the error stream and `o` on the output stream,
in terms of the full run. -/
structure Delivery.Capped (full capped : Delivery α) (e o : Nat) : Prop where
  /-- If everything fits, nothing changes. -/
  fits : full.error.length ≤ e → full.output.length ≤ o → capped = full
  /-- If the error stream overflows, the run fails before anything goes to the output stream. -/
  errorFull : e < full.error.length →
    capped.result = .error .sinkFull ∧ capped.error = full.error.take e ∧ capped.output = []
  /-- If the output stream overflows, the run fails when the error stream is complete. -/
  outputFull : full.error.length ≤ e → o < full.output.length →
    capped.result = .error .sinkFull ∧ capped.error = full.error ∧
      capped.output = full.output.take o

namespace Delivery.Capped

variable {full capped : Delivery α} {e o : Nat}

theorem ofResult (r : Except Halt α) (e o : Nat) :
    Delivery.Capped (Delivery.ofResult r) (Delivery.ofResult r) e o where
  fits _ _ := rfl
  errorFull h := absurd h (Nat.not_lt_zero e)
  outputFull _ h := absurd h (Nat.not_lt_zero o)

theorem afterStep (h : Delivery.Capped full capped e o) (s : Step) :
    Delivery.Capped (full.afterStep s) (capped.afterStep s) e o where
  fits he ho := congrArg (Delivery.afterStep s) (h.fits he ho)
  errorFull := h.errorFull
  outputFull := h.outputFull

/-- Bytes that fit into the error stream use up its room. -/
theorem afterError {bs : List UInt8} (hbs : bs.length ≤ e)
    (h : Delivery.Capped full capped (e - bs.length) o) :
    Delivery.Capped (full.afterBytes .error bs) (capped.afterBytes .error bs) e o := by
  constructor
  case fits =>
    intro he ho
    rw [length_error_afterBytes] at he
    rw [h.fits (by omega) ho]
  case errorFull =>
    intro he
    rw [length_error_afterBytes] at he
    obtain ⟨hresult, herror, houtput⟩ := h.errorFull (by omega)
    refine ⟨hresult, ?_, houtput⟩
    show bs ++ capped.error = (bs ++ full.error).take e
    rw [herror, List.take_append, List.take_of_length_le hbs]
  case outputFull =>
    intro he ho
    rw [length_error_afterBytes] at he
    obtain ⟨hresult, herror, houtput⟩ := h.outputFull (by omega) ho
    exact ⟨hresult, congrArg (bs ++ ·) herror, houtput⟩

theorem overflowError {bs : List UInt8} (hbs : e < bs.length) :
    Delivery.Capped (full.afterBytes .error bs)
      ((Delivery.ofResult (.error .sinkFull)).afterBytes .error (bs.take e)) e o := by
  constructor
  case fits =>
    intro he
    rw [length_error_afterBytes] at he
    omega
  case errorFull =>
    intro _
    refine ⟨rfl, ?_, rfl⟩
    show bs.take e ++ [] = (bs ++ full.error).take e
    rw [List.append_nil, List.take_append_of_le_length (by omega)]
  case outputFull =>
    intro he
    rw [length_error_afterBytes] at he
    omega

theorem afterOutput {bs : List UInt8} (hbs : bs.length ≤ o) (hnone : full.error = [])
    (h : Delivery.Capped full capped e (o - bs.length)) :
    Delivery.Capped (full.afterBytes .output bs) (capped.afterBytes .output bs) e o := by
  have herror : (full.afterBytes .output bs).error = [] := hnone
  constructor
  case fits =>
    intro he ho
    rw [length_output_afterBytes] at ho
    rw [h.fits he (by omega)]
  case errorFull =>
    intro he
    rw [herror] at he
    exact absurd he (Nat.not_lt_zero e)
  case outputFull =>
    intro he ho
    rw [length_output_afterBytes] at ho
    obtain ⟨hresult, herror, houtput⟩ := h.outputFull he (by omega)
    refine ⟨hresult, herror, ?_⟩
    show bs ++ capped.output = (bs ++ full.output).take o
    rw [houtput, List.take_append, List.take_of_length_le hbs]

theorem overflowOutput {bs : List UInt8} (hbs : o < bs.length) (hnone : full.error = []) :
    Delivery.Capped (full.afterBytes .output bs)
      ((Delivery.ofResult (.error .sinkFull)).afterBytes .output (bs.take o)) e o := by
  have herror : (full.afterBytes .output bs).error = [] := hnone
  constructor
  case fits =>
    intro _ ho
    rw [length_output_afterBytes] at ho
    omega
  case errorFull =>
    intro he
    rw [herror] at he
    exact absurd he (Nat.not_lt_zero e)
  case outputFull =>
    intro _ _
    refine ⟨rfl, herror.symm, ?_⟩
    show bs.take o ++ [] = (bs ++ full.output).take o
    rw [List.append_nil, List.take_append_of_le_length (by omega)]

end Delivery.Capped

/-! ## The error stream first -/

namespace Transcript

/-- Once something has gone to the output stream, nothing more goes to the error stream. -/
inductive ErrorsFirst : Transcript α → Prop where
  /-- The end with a result. -/
  | done (a : α) : ErrorsFirst (.done a)
  /-- The end without one. -/
  | refused (e : LayoutError) : ErrorsFirst (.refused e)
  /-- A question for the merge base. -/
  | askMergeBase {rest : Transcript α} (h : ErrorsFirst rest) :
      ErrorsFirst (.step .askMergeBase rest)
  /-- A question for a commit. -/
  | askCommit (n : Nat) {rest : Transcript α} (h : ErrorsFirst rest) :
      ErrorsFirst (.step (.askCommit n) rest)
  /-- A text on the error stream. -/
  | error (t : Text) {rest : Transcript α} (h : ErrorsFirst rest) :
      ErrorsFirst (.step (.write .error t) rest)
  /-- A text on the output stream, with nothing on the error stream after it. -/
  | output (t : Text) {rest : Transcript α} (h : ErrorsFirst rest)
      (hnone : rest.written .error = []) : ErrorsFirst (.step (.write .output t) rest)

/-- A transcript that writes nothing to the output stream can come before any other. -/
theorem ErrorsFirst.andThen {t : Transcript α} (ht : ∀ x, .write .output x ∉ t.steps)
    {next : α → Transcript β} (hnext : ∀ a, ErrorsFirst (next a)) :
    ErrorsFirst (t.andThen next) := by
  induction t with
  | done a => exact hnext a
  | refused e => exact .refused e
  | step s rest ih =>
    have hrest := ih fun x hx => ht x (List.mem_cons_of_mem s hx)
    cases s with
    | askMergeBase => exact .askMergeBase hrest
    | askCommit n => exact .askCommit n hrest
    | write stream x =>
      cases stream with
      | error => exact .error x hrest
      | output => exact absurd List.mem_cons_self (ht x)

theorem deliver_write_of_fits (stream : Stream) (x : Text) (rest : Transcript α) (room : Room)
    (h : allFit (room.of stream) x.bytes = true) :
    (step (.write stream x) rest).deliver room =
      ((rest.deliver (room.after stream x.bytes.length)).afterBytes stream x.bytes).afterStep
        (.write stream x) := by
  simp [deliver, h]

theorem deliver_write_of_not_fits (stream : Stream) (x : Text) (rest : Transcript α)
    (room : Room) (h : allFit (room.of stream) x.bytes = false) :
    (step (.write stream x) rest).deliver room =
      ((Delivery.ofResult (.error .sinkFull)).afterBytes stream
        (fitting (room.of stream) x.bytes)).afterStep (.write stream x) := by
  simp [deliver, h]

/-- A run that writes to the error stream first is cut where the room of a sink ends. -/
theorem ErrorsFirst.capped {t : Transcript α} (h : t.ErrorsFirst) (e o : Nat) :
    Delivery.Capped (t.deliver {}) (t.deliver ⟨some e, some o⟩) e o := by
  induction h generalizing e o with
  | done a => exact .ofResult _ e o
  | refused err => exact .ofResult _ e o
  | askMergeBase _ ih => exact (ih e o).afterStep .askMergeBase
  | askCommit n _ ih => exact (ih e o).afterStep (.askCommit n)
  | @error x rest _ ih =>
    rw [deliver_write_of_fits .error x rest {} rfl]
    by_cases hfits : x.bytes.length ≤ e
    · rw [deliver_write_of_fits .error x rest ⟨some e, some o⟩ (decide_eq_true hfits)]
      exact ((ih _ o).afterError hfits).afterStep _
    · rw [deliver_write_of_not_fits .error x rest ⟨some e, some o⟩ (decide_eq_false hfits)]
      exact (Delivery.Capped.overflowError (by omega)).afterStep _
  | @output x rest _ hnone ih =>
    have hempty : (rest.deliver {}).error = [] := by
      rw [deliver_unlimited, hnone]
      rfl
    rw [deliver_write_of_fits .output x rest {} rfl]
    by_cases hfits : x.bytes.length ≤ o
    · rw [deliver_write_of_fits .output x rest ⟨some e, some o⟩ (decide_eq_true hfits)]
      exact ((ih e _).afterOutput hfits hempty).afterStep _
    · rw [deliver_write_of_not_fits .output x rest ⟨some e, some o⟩ (decide_eq_false hfits)]
      exact (Delivery.Capped.overflowOutput (by omega) hempty).afterStep _

end Transcript

/-! ## Reporters, reviews and walks -/

namespace Reporter

theorem not_output_mem_progress (r : Reporter) (pieces : List Piece) (x : Text) :
    .write .output x ∉ (r.progress pieces).steps := by
  rw [steps_progress]
  split_ifs <;> simp

theorem not_output_mem_detail (r : Reporter) (t x : Text) :
    .write .output x ∉ (r.detail t).steps := by
  unfold detail
  split_ifs <;> simp [Transcript.write, Transcript.steps]

/-- A report is the last thing that is written. -/
theorem errorsFirst_report (r : Reporter) (report : Report) (b : β) :
    ((r.report report).andThen fun _ => .done b).ErrorsFirst := by
  unfold Reporter.report
  split_ifs
  · exact .done b
  · cases r.format with
    | text =>
      cases report.text r.color with
      | ok t => exact .error t (.done b)
      | error e => exact .refused e
    | json => exact .output _ (.done b) rfl

end Reporter

theorem errorsFirst_reviewMessage (r : Reporter) (m : Text) :
    (reviewMessage r m).ErrorsFirst := by
  by_cases hclean : Policy.review m = []
  · rw [← reviewAs_none, reviewAs_of_conforms hclean]
    exact .andThen (r.not_output_mem_progress _) fun _ => .done 0
  · simp only [reviewMessage, hclean, if_false, Transcript.andThen_done]
    exact r.errorsFirst_report _ _

namespace Walk

theorem errorsFirst_finish (r : Reporter) (checked : Nat) : (finish r checked).ErrorsFirst :=
  .andThen (r.not_output_mem_detail _) fun _ =>
    .andThen (r.not_output_mem_progress _) fun _ => .done _

/-- By induction on the number of commits that may still be reviewed: a commit is announced before
its report, and the report ends the walk. -/
theorem errorsFirst_walkOn (source : Source) (r : Reporter) (boundary : Option Text)
    (left checked : Nat) : (walkOn source r boundary left checked).ErrorsFirst := by
  induction left generalizing checked with
  | zero => exact errorsFirst_finish r checked
  | succ left ih =>
    refine .askCommit checked ?_
    cases source.commit checked with
    | none => exact errorsFirst_finish r checked
    | some c =>
      dsimp only
      split_ifs with hboundary hclean
      · exact errorsFirst_finish r checked
      · exact .andThen (r.not_output_mem_progress _) fun _ => ih (checked + 1)
      · exact .andThen (r.not_output_mem_progress _) fun _ => r.errorsFirst_report _ _

theorem errorsFirst_walk (source : Source) (o : WalkOptions) (r : Reporter) :
    (walk source o r).ErrorsFirst := by
  unfold walk
  split_ifs
  · exact .andThen (r.not_output_mem_detail _) fun _ => errorsFirst_walkOn ..
  · exact .askMergeBase (.andThen (r.not_output_mem_detail _) fun _ => errorsFirst_walkOn ..)

end Walk

/-- A run against sinks of limited capacity either is the run against sinks that take everything, or
fails with the first byte for which there is no room, and has then written exactly what stands
before that byte: all of it on the error stream, if that byte is on the output stream. -/
theorem capped_run_keeps_or_fails (r : Reporter) (e o : Nat) :
    (∀ m : Text, Delivery.Capped ((reviewMessage r m).deliver {})
      ((reviewMessage r m).deliver ⟨some e, some o⟩) e o) ∧
    ∀ (source : Source) (options : WalkOptions),
      Delivery.Capped ((walk source options r).deliver {})
        ((walk source options r).deliver ⟨some e, some o⟩) e o :=
  ⟨fun m => (errorsFirst_reviewMessage r m).capped e o,
    fun source options => (Walk.errorsFirst_walk source options r).capped e o⟩

end CommitGate
