import CommitGate.Proofs.Conformity
import CommitGate.Proofs.Highlights
import CommitGate.Proofs.Lines
import CommitGate.Proofs.Walk

/-!
# The two formats

A review as a JSON document always comes to an end. As text it comes to the same end if there is
room for a hint on every line of the message, and is refused otherwise: a line without that room is
over the limit on length, and the hint to say so would end where the line does.
-/

namespace CommitGate

open Policy

/-! ## Room for hints -/

/-- The greatest number of characters on a line that leave room for a hint at its end. -/
def hintLimit : Nat := fieldLimit - marginWidth

/-- There is room for a hint on every line of a message. -/
def HasRoom (m : Text) : Prop := ∀ line ∈ m.lines, line.length ≤ hintLimit

instance : DecidablePred HasRoom := fun m =>
  inferInstanceAs (Decidable (∀ line ∈ m.lines, line.length ≤ hintLimit))

/-- The hint of a diagnostic that is placed on a line fits if the highlight ends early enough. -/
theorem Diagnostic.Placed.fits_iff {m : Text} {d : Diagnostic} {l : Location} {line : Text}
    (h : d.Placed m l line) : d.fits m.lines = true ↔ l.stop ≤ hintLimit := by
  obtain ⟨hint, hhint⟩ := Option.isSome_iff_exists.mp h.hint
  unfold Diagnostic.fits
  simp only [h.location, hhint, hintWidth, h.within.endColumn_eq, decide_eq_true_eq, hintLimit,
    marginWidth, fieldLimit]
  omega

/-- The diagnostics whose hints do not fit are on the lines without room, and every such line has one:
it is over the limit on length, and the hint to say so ends where the line does. -/
theorem exists_not_fits_iff (m : Text) (row : Nat) :
    (∃ d ∈ review m, d.location.map (·.line) = some row ∧ d.fits m.lines = false) ↔
      ∃ line ∈ m.lines[row]?, hintLimit < line.length := by
  constructor
  · rintro ⟨d, hd, hrow, hfits⟩
    obtain ⟨l, line, hplaced⟩ := placed_of_mem_review hd
    rw [hplaced.location, Option.map_some, Option.some.injEq] at hrow
    subst hrow
    refine ⟨line, hplaced.within.row, ?_⟩
    by_contra hroom
    have hfit := hplaced.fits_iff.mpr (hplaced.within.stop_le.trans (not_lt.mp hroom))
    rw [hfits] at hfit
    cases hfit
  · rintro ⟨line, hrow, hlong⟩
    have hlimit : lineLimit < line.length := lt_of_le_of_lt (by decide) hlong
    have hlength : lineTooLong row line.length ∈ checkLineLength m :=
      mem_checkLineLength_iff.mpr ⟨row, line, hrow, hlimit, rfl⟩
    have hplaced : (lineTooLong row line.length).Placed m ⟨row, lineLimit, line.length⟩ line :=
      ⟨rfl, ⟨hrow, hlimit, le_rfl⟩, rfl, rfl, rfl⟩
    refine ⟨_, mem_review_iff.mpr (.inl hlength), rfl, ?_⟩
    rw [Bool.eq_false_iff, ne_eq, hplaced.fits_iff]
    exact not_le.mpr hlong

/-- A review can be laid out just if there is room for hints. -/
theorem fits_review_iff (commit : Option Text) (m : Text) :
    (Report.mk commit m (review m)).fits = true ↔ HasRoom m := by
  unfold Report.fits
  rw [List.all_eq_true]
  constructor
  · intro h line hline
    obtain ⟨row, hrow⟩ := List.mem_iff_getElem?.mp hline
    by_contra hlong
    obtain ⟨d, hd, -, hfits⟩ := (exists_not_fits_iff m row).mpr ⟨line, hrow, not_le.mp hlong⟩
    rw [h d hd] at hfits
    cases hfits
  · intro hroom d hd
    obtain ⟨l, line, hplaced⟩ := placed_of_mem_review hd
    have hline := List.mem_of_getElem? hplaced.within.row
    exact hplaced.fits_iff.mpr (hplaced.within.stop_le.trans (hroom line hline))

/-- The text of a review, in colour or not, is complete just if no line of the message has more than
65527 characters, and is refused otherwise. The hints that do not fit are those of diagnostics on such
lines, and each such line has one. -/
theorem text_review_complete_iff (color : Bool) (commit : Option Text) (m : Text) :
    let result := (Report.mk commit m (review m)).text color
    ((∃ t, result = .ok t) ↔ ∀ line ∈ m.lines, line.length ≤ 65527) ∧
    (∀ e, result = .error e ↔ e.message = "Formatting argument out of range".toList ∧
      ∃ line ∈ m.lines, 65527 < line.length) ∧
    ∀ row, (∃ d ∈ review m, d.location.map (·.line) = some row ∧ d.fits m.lines = false) ↔
      ∃ line ∈ m.lines[row]?, 65527 < line.length := by
  intro result
  have hroom : HasRoom m ↔ ∀ line ∈ m.lines, line.length ≤ 65527 := Iff.rfl
  have hno : ¬ HasRoom m ↔ ∃ line ∈ m.lines, 65527 < line.length := by
    rw [hroom]
    push Not
    rfl
  have hresult : result = if HasRoom m then
      .ok (paint color (Report.mk commit m (review m)).pieces) else .error .fieldTooWide :=
    if_congr (fits_review_iff commit m) rfl rfl
  rw [hresult, ← hroom, ← hno]
  refine ⟨?_, ?_, exists_not_fits_iff m⟩
  · split_ifs with h
    · exact iff_of_true ⟨_, rfl⟩ h
    · exact iff_of_false (fun ⟨_, ht⟩ => nomatch ht) h
  · rintro ⟨⟩
    split_ifs with h
    · exact iff_of_false nofun fun ⟨_, hlong⟩ => hlong h
    · exact iff_of_true rfl ⟨rfl, h⟩

/-! ## Reporters of either format -/

namespace Reporter

theorem not_refuses_json (r : Reporter) (report : Report) :
    ¬ ({ r with format := .json } : Reporter).Refuses report := fun h => nomatch h.1

theorem refuses_text_review_iff (r : Reporter) (commit : Option Text) (m : Text) :
    ({ r with format := .text } : Reporter).Refuses ⟨commit, m, review m⟩ ↔ ¬ HasRoom m := by
  rw [Refuses, ← fits_review_iff commit m, Bool.not_eq_true]
  exact and_iff_right rfl

end Reporter

/-- The format has no influence on how a review or a walk ends, as long as there is room for hints
on the lines of the message that is reported. Where there is none, the JSON format still comes to an
end and the text format is refused. -/
theorem formats_end_alike_iff_hasRoom (r : Reporter) :
    (∀ m : Text,
      let text := (reviewMessage { r with format := .text } m).deliver {}
      let json := (reviewMessage { r with format := .json } m).deliver {}
      json.result = .ok (review m).length ∧
      text.result = if HasRoom m then json.result else .error (.refused .fieldTooWide)) ∧
    ∀ (source : Source) (o : WalkOptions),
      ∃ k, IsLeast {n | Walk.Ends source (o.boundary source) o.limit n} k ∧
        let text := (walk source o { r with format := .text }).deliver {}
        let json := (walk source o { r with format := .json }).deliver {}
        let offender? := Walk.offender? source (o.boundary source) o.limit k
        json.result = .ok (Walk.verdict source (o.boundary source) o.limit k) ∧
        text.result =
          if ∀ c ∈ offender?, HasRoom c.message then json.result
          else .error (.refused .fieldTooWide) := by
  constructor
  · intro m
    simp only [Transcript.deliver_unlimited, result_reviewMessage, r.not_refuses_json,
      r.refuses_text_review_iff, if_false, ite_not]
    refine ⟨rfl, ?_⟩
    split_ifs <;> rfl
  · intro source o
    obtain ⟨k, hk⟩ := Walk.exists_least_end source (o.boundary source) o.limit
    refine ⟨k, hk, ?_⟩
    simp only [Transcript.deliver_unlimited, Walk.result_walk_eq hk, r.not_refuses_json,
      Commit.report, r.refuses_text_review_iff, not_not, not_false_eq_true, implies_true, if_true]
    refine ⟨rfl, ?_⟩
    split_ifs <;> rfl

/-! ## A message without room -/

/-- A message whose body is a single line of so many characters. -/
def longBody (n : Nat) : Text := "Add a table".toList ++ '\n' :: '\n' :: List.replicate n 'a'

theorem lines_longBody {n : Nat} (h : 0 < n) :
    (longBody n).lines = ["Add a table".toList, [], List.replicate n 'a'] := by
  have hsubject : '\n' ∉ "Add a table".toList := by decide
  have hkept : Text.dropReturn "Add a table".toList = "Add a table".toList := by decide
  have hbody : Text.lines (List.replicate n 'a') = [List.replicate n 'a'] :=
    Text.lines_of_not_mem (by simp [List.mem_replicate]) (by simpa using Nat.ne_of_gt h)
  calc (longBody n).lines
      = Text.dropReturn "Add a table".toList :: Text.lines ('\n' :: List.replicate n 'a') :=
        Text.lines_append_newline hsubject _
    _ = "Add a table".toList :: [] :: Text.lines (List.replicate n 'a') :=
        congrArg₂ _ hkept (Text.lines_append_newline List.not_mem_nil _)
    _ = ["Add a table".toList, [], List.replicate n 'a'] := by rw [hbody]

theorem trimmed_of_mem_lines_longBody {n : Nat} (h : 0 < n) {line : Text}
    (hline : line ∈ (longBody n).lines) : line.Trimmed := by
  have hbody : ∀ c ∈ List.replicate n 'a', Text.isBlank c = false := fun c hc => by
    rw [List.eq_of_mem_replicate hc]
    decide
  rw [lines_longBody h] at hline
  rcases List.mem_cons.mp hline with rfl | hline
  · exact ⟨Text.trimStart_eq_self_iff.mp (by decide), Text.trimEnd_eq_self_iff.mp (by decide)⟩
  rcases List.mem_cons.mp hline with rfl | hline
  · exact ⟨by simp, by simp⟩
  rw [List.mem_singleton.mp hline]
  exact ⟨fun c hc => hbody c (List.mem_of_head? hc), fun c hc => hbody c (List.mem_of_getLast? hc)⟩

/-- The only thing wrong with such a message is the length of that line. -/
theorem review_longBody {n : Nat} (h : 72 < n) : review (longBody n) = [lineTooLong 2 n] := by
  have hlines := lines_longBody (n := n) (by omega)
  have hsubject : (longBody n).subject? = Text.subject? "Add a table".toList :=
    (congrArg List.head? hlines).trans
      (by decide : some "Add a table".toList = Text.subject? "Add a table".toList)
  have hlength : checkLineLength (longBody n) = [lineTooLong 2 n] := by
    simp [checkLineLength, hlines, lineLimit, h]
  have hending := checkEnding_congr hsubject
  have hsecond : checkSecondLine (longBody n) = [] := by
    rw [checkSecondLine_eq_nil_iff, hlines]
    exact fun line hline => (Option.some.inj hline).symm
  have hcasing := checkCasing_congr hsubject
  have hspacing : checkMargins (longBody n) = [] ∧ checkBlankLines (longBody n) = [] :=
    spacing_eq_nil_iff.mpr fun row line hline _ =>
      trimmed_of_mem_lines_longBody (by omega) (List.mem_of_getElem? hline)
  have hfine : checkEnding "Add a table".toList = [] ∧ checkCasing "Add a table".toList = [] := by
    decide +kernel
  simp only [review, Rule.all, Rule.check, List.flatMap_cons, List.flatMap_nil, hlength, hending,
    hsecond, hcasing, hspacing.1, hspacing.2, hfine.1, hfine.2, List.append_nil]

/-- The review of such a message ends with one diagnostic in one format, and is refused in the other
if the line leaves no room for a hint. -/
theorem result_reviewMessage_longBody {n : Nat} (h : hintLimit < n) :
    ((reviewMessage { format := .json } (longBody n)).deliver {}).result = .ok 1 ∧
      ((reviewMessage { format := .text } (longBody n)).deliver {}).result =
        .error (.refused .fieldTooWide) := by
  have hlimit : lineLimit ≤ hintLimit := by decide
  have hroom : ¬ HasRoom (longBody n) := fun hroom => by
    have hmem : List.replicate n 'a' ∈ (longBody n).lines := by
      rw [lines_longBody (by omega)]
      simp
    have hle := hroom _ hmem
    rw [List.length_replicate] at hle
    omega
  have hjson := Reporter.not_refuses_json {} ⟨none, longBody n, review (longBody n)⟩
  have htext := (Reporter.refuses_text_review_iff {} none (longBody n)).mpr hroom
  rw [Transcript.deliver_unlimited, Transcript.deliver_unlimited]
  constructor
  · show Except.mapError _ (Transcript.result _) = _
    rw [result_reviewMessage, if_neg hjson, review_longBody (lt_of_le_of_lt hlimit h)]
    rfl
  · show Except.mapError _ (Transcript.result _) = _
    rw [result_reviewMessage, if_pos htext]
    rfl

/-- A body line of 65528 characters is too long for one format only. -/
theorem formats_differ_on_long_body :
    ((reviewMessage { format := .json } (longBody 65528)).deliver {}).result = .ok 1 ∧
      ((reviewMessage { format := .text } (longBody 65528)).deliver {}).result =
        .error (.refused .fieldTooWide) :=
  result_reviewMessage_longBody (by decide)

end CommitGate
