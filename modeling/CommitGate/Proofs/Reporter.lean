import CommitGate.Reporter
import CommitGate.Proofs.Transcript

/-!
# Reporters: what they ask, what they write and what they refuse

A reporter only ever writes. Progress and details always come to an end, and a report does unless it
is text with a hint that needs too wide a field.
-/

namespace CommitGate

/-! ## What a report looks at -/

theorem Report.text_congr {m m' : Text} (h : m.lines = m'.lines) (color : Bool)
    (commit : Option Text) (ds : List Diagnostic) :
    (Report.mk commit m ds).text color = (Report.mk commit m' ds).text color := by
  simp only [Report.text, Report.fits, Report.pieces, h]

theorem Report.document_congr {m m' : Text} (h : m.subject? = m'.subject?)
    (commit : Option Text) (ds : List Diagnostic) :
    (Report.mk commit m ds).document = (Report.mk commit m' ds).document := by
  simp only [Report.document, Report.json, h]

namespace Reporter

/-! ## Progress and details -/

theorem steps_progress (r : Reporter) (pieces : List Piece) :
    (r.progress pieces).steps =
      if r.quiet then [] else [.write .error (Text.line (paint r.color pieces))] := by
  unfold progress
  split <;> rfl

@[simp] theorem result_progress (r : Reporter) (pieces : List Piece) :
    (r.progress pieces).result = .ok () := by
  unfold progress
  split <;> rfl

@[simp] theorem result_detail (r : Reporter) (t : Text) : (r.detail t).result = .ok () := by
  unfold detail
  split <;> rfl

@[simp] theorem commitsAsked_progress (r : Reporter) (pieces : List Piece) :
    commitsAsked (r.progress pieces).steps = [] := by
  unfold progress
  split <;> rfl

@[simp] theorem commitsAsked_detail (r : Reporter) (t : Text) :
    commitsAsked (r.detail t).steps = [] := by
  unfold detail
  split <;> rfl

@[simp] theorem mergeBaseAsked_progress (r : Reporter) (pieces : List Piece) :
    mergeBaseAsked (r.progress pieces).steps = 0 := by
  unfold progress
  split <;> rfl

@[simp] theorem mergeBaseAsked_detail (r : Reporter) (t : Text) :
    mergeBaseAsked (r.detail t).steps = 0 := by
  unfold detail
  split <;> rfl

/-- Without verbosity there are no details. -/
theorem detail_eq_done {r : Reporter} (h : r.verbosity = 0) (t : Text) :
    r.detail t = .done () := by
  simp [detail, h]

theorem written_output_progress (r : Reporter) (pieces : List Piece) :
    (r.progress pieces).written .output = [] := by
  unfold progress
  split_ifs <;> rfl

/-! ## Reports -/

/-- A reporter refuses a report if it writes text and the report cannot be laid out. -/
def Refuses (r : Reporter) (report : Report) : Prop := r.format = .text ∧ report.fits = false

instance (r : Reporter) (report : Report) : Decidable (r.Refuses report) :=
  inferInstanceAs (Decidable (_ ∧ _))

theorem fits_of_no_diagnostics {report : Report} (h : report.diagnostics = []) :
    report.fits = true := by
  simp [Report.fits, h]

/-- A report comes to an end unless it is refused. -/
theorem result_report (r : Reporter) (report : Report) :
    (r.report report).result =
      if r.Refuses report then .error .fieldTooWide else .ok () := by
  by_cases hd : report.diagnostics = []
  · have hfits : ¬ r.Refuses report := fun h => by
      have hno := h.2
      rw [fits_of_no_diagnostics hd] at hno
      exact absurd hno (by decide)
    rw [if_neg hfits]
    simp [Reporter.report, hd, Transcript.result]
  · cases hf : r.format with
    | json => simp [Reporter.report, Refuses, hd, hf, Transcript.write, Transcript.result]
    | text =>
      cases hfit : report.fits with
      | false => simp [Reporter.report, Refuses, Report.text, hd, hf, hfit, Transcript.result]
      | true =>
        simp [Reporter.report, Refuses, Report.text, hd, hf, hfit, Transcript.write,
          Transcript.result]

/-- A report depends on the lines of the message alone. -/
theorem report_congr {m m' : Text} (h : m.lines = m'.lines) (r : Reporter)
    (commit : Option Text) (ds : List Diagnostic) :
    r.report ⟨commit, m, ds⟩ = r.report ⟨commit, m', ds⟩ := by
  simp only [Reporter.report, Report.text_congr h, Report.document_congr (congrArg List.head? h)]

/-- A report asks the history nothing. -/
theorem report_asks_nothing (r : Reporter) (report : Report) :
    commitsAsked (r.report report).steps = [] ∧ mergeBaseAsked (r.report report).steps = 0 := by
  unfold Reporter.report
  split
  · exact ⟨rfl, rfl⟩
  · split
    · split <;> exact ⟨rfl, rfl⟩
    · exact ⟨rfl, rfl⟩

end Reporter

/-! ## A single message -/

/-- The review of a message whose report names the given commit. -/
def reviewAs (r : Reporter) (commit : Option Text) (m : Text) : Transcript Nat :=
  let diagnostics := Policy.review m
  (r.report ⟨commit, m, diagnostics⟩).andThen fun _ =>
    (if diagnostics = [] then r.progress finishedPieces else .done ()).andThen fun _ =>
      .done diagnostics.length

theorem reviewAs_none (r : Reporter) (m : Text) : reviewAs r none m = reviewMessage r m := rfl

/-- The review of a message gives the number of diagnostics, unless the report is refused. -/
theorem result_reviewAs (r : Reporter) (commit : Option Text) (m : Text) :
    (reviewAs r commit m).result =
      if r.Refuses ⟨commit, m, Policy.review m⟩ then .error .fieldTooWide
      else .ok (Policy.review m).length := by
  unfold reviewAs
  rw [Transcript.result_andThen, Reporter.result_report]
  by_cases hrefused : r.Refuses ⟨commit, m, Policy.review m⟩
  · rw [if_pos hrefused, if_pos hrefused]
    rfl
  · rw [if_neg hrefused, if_neg hrefused]
    show Transcript.result (Transcript.andThen _ _) = _
    rw [Transcript.result_andThen]
    split_ifs
    · rw [Reporter.result_progress]
      rfl
    · rfl

theorem result_reviewMessage (r : Reporter) (m : Text) :
    (reviewMessage r m).result =
      if r.Refuses { message := m, diagnostics := Policy.review m } then .error .fieldTooWide
      else .ok (Policy.review m).length :=
  result_reviewAs r none m

/-- All that a reviewed message without diagnostics leads to is a line of progress. -/
theorem reviewAs_of_conforms {m : Text} (h : Policy.review m = []) (r : Reporter)
    (commit : Option Text) :
    reviewAs r commit m = (r.progress finishedPieces).andThen fun _ => .done 0 := by
  simp [reviewAs, Reporter.report, h]

/-- In text, a report does not name the commit. -/
theorem reviewAs_text {r : Reporter} (h : r.format = .text) (commit : Option Text) (m : Text) :
    reviewAs r commit m = reviewMessage r m := by
  rw [← reviewAs_none]
  simp only [reviewAs, Reporter.report, h]
  rfl

/-- In JSON, a reviewed message with diagnostics leads to one document. -/
theorem reviewAs_json {r : Reporter} (hformat : r.format = .json) {m : Text}
    (hm : Policy.review m ≠ []) (commit : Option Text) :
    reviewAs r commit m =
      (Transcript.write .output (Text.line (Report.document ⟨commit, m, Policy.review m⟩))).andThen
        fun _ => .done (Policy.review m).length := by
  simp only [reviewAs, Reporter.report, hformat, if_neg hm]
  rfl

/-! ## Exit codes -/

theorem exitCodeFor_eq_zero_iff {count : Nat} : exitCodeFor count = 0 ↔ count = 0 := by
  simp only [exitCodeFor, maxExitCode]
  omega

end CommitGate
