import CommitGate.Proofs.PlainReview
import CommitGate.Proofs.Walk

/-!
# Colours decorate

A run in colour and the same run without take the same steps, one by one, except that the texts on
the error stream differ by control sequences. Two such runs end alike and write the same to the
output stream.
-/

namespace CommitGate

/-- Equal steps, except that what is written to the error stream may hold control sequences in the
first. -/
inductive Step.Styled : Step → Step → Prop where
  /-- The merge base is asked for. -/
  | askMergeBase : Styled .askMergeBase .askMergeBase
  /-- A commit is asked for. -/
  | askCommit (n : Nat) : Styled (.askCommit n) (.askCommit n)
  /-- The same is written to the output stream. -/
  | output (t : Text) : Styled (.write .output t) (.write .output t)
  /-- A text is written to the error stream with control sequences. -/
  | error {s t : Text} (h : CommitGate.Styled s t) : Styled (.write .error s) (.write .error t)

/-- Runs that go together step by step, except for control sequences on the error stream. -/
inductive Transcript.Styled {α : Type} : Transcript α → Transcript α → Prop where
  /-- Both end with the same result. -/
  | done (a : α) : Styled (.done a) (.done a)
  /-- Both end for the same reason. -/
  | refused (e : LayoutError) : Styled (.refused e) (.refused e)
  /-- Both take a step. -/
  | step {s s' : Step} {t t' : Transcript α} (hs : s.Styled s') (ht : Styled t t') :
      Styled (.step s t) (.step s' t')

namespace Transcript.Styled

variable {α β : Type} {t t' : Transcript α}

/-- Runs that go together can be followed by runs that go together. -/
theorem andThen (h : Transcript.Styled t t') {next next' : α → Transcript β}
    (hnext : ∀ a, Transcript.Styled (next a) (next' a)) :
    Transcript.Styled (t.andThen next) (t'.andThen next') := by
  induction h with
  | done a => exact hnext a
  | refused e => exact .refused e
  | step hs _ ih => exact .step hs ih

theorem result_eq (h : Transcript.Styled t t') : t.result = t'.result := by
  induction h with
  | done a => rfl
  | refused e => rfl
  | step _ _ ih => exact ih

theorem written_output_eq (h : Transcript.Styled t t') :
    t.written .output = t'.written .output := by
  induction h with
  | done a => rfl
  | refused e => rfl
  | step hs _ ih =>
    cases hs with
    | askMergeBase => exact ih
    | askCommit n => exact ih
    | output x => simp [written, ih]
    | error hx => simpa [written] using ih

/-- What the two runs write to the error stream differs by control sequences. -/
theorem written_error (h : Transcript.Styled t t') :
    CommitGate.Styled (t.written .error) (t'.written .error) := by
  induction h with
  | done a => exact CommitGate.Styled.of_plain Text.plain_nil
  | refused e => exact CommitGate.Styled.of_plain Text.plain_nil
  | step hs _ ih =>
    cases hs with
    | askMergeBase => exact ih
    | askCommit n => exact ih
    | output x => simpa [written] using ih
    | error hx => simpa [written] using hx.append ih

end Transcript.Styled

/-! ## Reporters -/

namespace Reporter

/-- The reporter in colour. -/
def coloured (r : Reporter) : Reporter := { r with color := true }

/-- The reporter without colours. -/
def uncoloured (r : Reporter) : Reporter := { r with color := false }

theorem styled_progress (r : Reporter) {pieces : List Piece} (h : (paint false pieces).Plain) :
    Transcript.Styled (r.coloured.progress pieces) (r.uncoloured.progress pieces) := by
  by_cases hquiet : r.quiet = true
  · simp only [progress, coloured, uncoloured, hquiet, if_true]
    exact .done ()
  · simp only [progress, coloured, uncoloured, hquiet]
    refine .step (.error ?_) (.done ())
    exact (styled_paint h).append (.of_plain (by decide))

theorem styled_detail (r : Reporter) {t : Text} (h : t.Plain) :
    Transcript.Styled (r.coloured.detail t) (r.uncoloured.detail t) := by
  have hline : CommitGate.Styled (Text.line t) (Text.line t) :=
    .of_plain (Text.plain_append_iff.mpr ⟨h, by decide⟩)
  show Transcript.Styled (r.detail t) (r.detail t)
  unfold detail
  split_ifs
  · exact .step (.error hline) (.done ())
  · exact .done ()

theorem styled_report (r : Reporter) {report : Report} (h : report.Plain) :
    Transcript.Styled (r.coloured.report report) (r.uncoloured.report report) := by
  by_cases hnil : report.diagnostics = []
  · simp only [Reporter.report, hnil, if_true]
    exact .done ()
  · cases hformat : r.format with
    | json =>
      simp only [Reporter.report, coloured, uncoloured, hnil, hformat, if_false]
      exact .step (.output _) (.done ())
    | text =>
      simp only [Reporter.report, coloured, uncoloured, hnil, hformat, if_false, Report.text]
      by_cases hfits : report.fits = true
      · simp only [if_pos hfits]
        exact .step (.error (styled_paint h.plain_pieces)) (.done ())
      · simp only [if_neg hfits]
        exact .refused _

end Reporter

/-! ## Walks -/

/-- A history whose hashes and messages hold no escape characters. -/
structure Source.Plain (source : Source) : Prop where
  /-- The hashes of commits are plain. -/
  hash : ∀ n c, source.commit n = some c → c.hash.Plain
  /-- The messages of commits are plain. -/
  message : ∀ n c, source.commit n = some c → c.message.Plain
  /-- The hash of the merge base is plain. -/
  mergeBase : ∀ t, source.mergeBase = some t → t.Plain

theorem Source.plain_single {c : Commit} (hhash : c.hash.Plain) (hmessage : c.message.Plain) :
    (Source.single c none).Plain := by
  have hcommit : ∀ n c', (Source.single c none).commit n = some c' → c' = c := by
    intro n c' h
    unfold Source.single at h
    dsimp only at h
    split_ifs at h
    exact (Option.some.inj h).symm
  refine ⟨fun n c' h => ?_, fun n c' h => ?_, fun t h => by cases h⟩
  · rw [hcommit n c' h]
    exact hhash
  · rw [hcommit n c' h]
    exact hmessage

namespace Walk

variable {source : Source} (hsource : source.Plain) (r : Reporter)

theorem plain_boundaryDetail (limit : Nat) {boundary : Option Text}
    (h : ∀ t, boundary = some t → t.Plain) : (boundaryDetail limit boundary).Plain := by
  cases boundary with
  | none =>
    have hlead : Text.Plain "No merge-base found; checking up to ".toList := by decide
    have hlimit := Text.plain_append_iff.mpr ⟨hlead, Text.plain_ofNat limit⟩
    exact Text.plain_append_iff.mpr ⟨hlimit, by decide⟩
  | some t => exact Text.plain_append_iff.mpr ⟨by decide, h t rfl⟩

theorem styled_finish (r : Reporter) (checked : Nat) :
    Transcript.Styled (finish r.coloured checked) (finish r.uncoloured checked) := by
  have hdetail : Text.Plain ("Checked ".toList ++ Text.count checked "commit".toList) := by
    simp [Text.plain_count]
  exact (r.styled_detail hdetail).andThen fun _ =>
    (r.styled_progress plain_finishedPieces).andThen fun _ => .done _

include hsource

theorem styled_walkOn (boundary : Option Text) (left checked : Nat) :
    Transcript.Styled (walkOn source r.coloured boundary left checked)
      (walkOn source r.uncoloured boundary left checked) := by
  -- both walks see the same history, and so take the same branch at each commit
  induction left generalizing checked with
  | zero => exact styled_finish r checked
  | succ left ih =>
    unfold walkOn
    refine .step (.askCommit checked) ?_
    cases hc : source.commit checked with
    | none => exact styled_finish r checked
    | some c =>
      have hhash := hsource.hash checked c hc
      have hmessage := hsource.message checked c hc
      by_cases hb : boundary = some c.hash
      · simp only [hb, if_true]
        exact styled_finish r checked
      · simp only [hb, if_false]
        refine (r.styled_progress (plain_checkingPieces hhash hmessage)).andThen fun _ => ?_
        by_cases hreview : Policy.review c.message = []
        · simp only [hreview, if_true]
          exact ih (checked + 1)
        · simp only [hreview, if_false]
          exact (r.styled_report (Report.plain_review _ hmessage)).andThen fun _ => .done _

theorem styled_walk (o : WalkOptions) :
    Transcript.Styled (walk source o r.coloured) (walk source o r.uncoloured) := by
  unfold walk
  by_cases hfull : o.full = true
  · rw [if_pos hfull, if_pos hfull]
    exact (r.styled_detail (by decide)).andThen fun _ => styled_walkOn hsource r none o.limit 0
  · rw [if_neg hfull, if_neg hfull]
    have hdetail := plain_boundaryDetail o.limit hsource.mergeBase
    exact .step .askMergeBase <|
      (r.styled_detail hdetail).andThen fun _ => styled_walkOn hsource r _ o.limit 0

end Walk

/-! ## Everything that is painted -/

/-- Colours only decorate. Without the control sequences, a report in colour is the report without
colours, and it is refused just if that one is; the same holds of the progress lines and of notices.
A walk in colour has the result of the walk without colours and the same output, and its error
stream is the same without the control sequences. All this holds where the texts that are shown
have no escape characters of their own. -/
theorem unstyled_coloured_eq_uncoloured :
    (∀ report : Report, report.Plain → (report.text true).map Text.unstyled = report.text false) ∧
    (∀ hash message : Text, hash.Plain → message.Plain →
      (paint true (checkingPieces hash message)).unstyled =
        paint false (checkingPieces hash message)) ∧
    (paint true finishedPieces).unstyled = paint false finishedPieces ∧
    (∀ n : Notice, n.Plain → (n.text true).unstyled = n.text false) ∧
    ∀ (source : Source) (o : WalkOptions) (r : Reporter), source.Plain →
      let coloured := (walk source o { r with color := true }).deliver {}
      let uncoloured := (walk source o { r with color := false }).deliver {}
      coloured.result = uncoloured.result ∧ coloured.output = uncoloured.output ∧
        ∃ t : Text, coloured.error = t.bytes ∧ uncoloured.error = t.unstyled.bytes := by
  refine ⟨fun report h => h.unstyled_text, fun hash message hhash hmessage => ?_, ?_,
    fun n h => (styled_paint h.plain_pieces).unstyled_eq, fun source o r h => ?_⟩
  · exact (styled_paint (plain_checkingPieces hhash hmessage)).unstyled_eq
  · exact (styled_paint plain_finishedPieces).unstyled_eq
  · have hwalk := Walk.styled_walk h r o
    simp only [Transcript.deliver_unlimited]
    refine ⟨?_, ?_, (walk source o r.coloured).written .error, rfl, ?_⟩
    · exact congrArg _ hwalk.result_eq
    · exact congrArg _ hwalk.written_output_eq
    · exact congrArg _ hwalk.written_error.unstyled_eq.symm

/-- The walk over a commit with the message `Wip.` in colour, with the report on it, holds the walk
without colours. -/
theorem unstyled_wip_walk :
    let source := Source.single ⟨"0123456789abcdef".toList, "Wip.\n".toList⟩ none
    source.Plain ∧
      ∃ t : Text, ((walk source { limit := 5 } { color := true }).deliver {}).error = t.bytes ∧
        ((walk source { limit := 5 } { color := false }).deliver {}).error = t.unstyled.bytes := by
  intro source
  have hplain : source.Plain := Source.plain_single (by decide) (by decide)
  obtain ⟨-, -, -, -, hwalk⟩ := unstyled_coloured_eq_uncoloured
  obtain ⟨-, -, ht⟩ := hwalk source { limit := 5 } {} hplain
  exact ⟨hplain, ht⟩

end CommitGate
