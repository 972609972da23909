import CommitGate.Proofs.Conformity
import CommitGate.Proofs.Lines
import Mathlib.Data.List.DropRight

/-!
# Taking punctuation off a subject

The suggestion for a subject that ends in punctuation may end in punctuation again, and then there
is another suggestion for it. Each takes one character off the end, so that suggestions come to an
end: what is left is the longest start of the subject that ends in no punctuation, and on the way
there is one diagnostic for every character that is taken off.
-/

namespace CommitGate.Policy

variable {subject next kept marks last last' : Text} {c : Char} {d : Diagnostic}
  {steps steps' : List (Text × Diagnostic)}

/-- The rule on endings finds one thing in a subject, and suggests the next subject for it. -/
structure MendsEnding (subject : Text) (d : Diagnostic) (next : Text) : Prop where
  found : checkEnding subject = [d]
  suggested : d.help.bind Help.suggestion? = some next

theorem MendsEnding.ne_nil (h : MendsEnding subject d next) : checkEnding subject ≠ [] := by
  rw [h.found]
  exact List.cons_ne_nil d []

/-- Suggestions are taken, one after the other, until the rule on endings is silent. The steps are
the subjects that are given up on the way, each with what is found in it. -/
inductive EndingRun : Text → List (Text × Diagnostic) → Text → Prop where
  | silent {subject : Text} (h : checkEnding subject = []) : EndingRun subject [] subject
  | step {subject next last : Text} {d : Diagnostic} {steps : List (Text × Diagnostic)}
      (h : MendsEnding subject d next) (rest : EndingRun next steps last) :
      EndingRun subject ((subject, d) :: steps) last

/-- Each step gives up a subject of one character less than the one before, for what is found at its
last character. -/
def Shortens (subject : Text) (steps : List (Text × Diagnostic)) : Prop :=
  ∀ i current d, steps[i]? = some (current, d) →
    current = subject.take (subject.length - i) ∧
      d.location = some ⟨0, current.length - 1, current.length⟩

/-! ## One suggestion -/

theorem checkEnding_concat (hfeed : '\n' ∉ subject ++ [c]) (hc : c ∈ endings) :
    checkEnding (subject ++ [c]) = [badEnding (subject ++ [c]) c] := by
  have hne : subject ++ [c] ≠ [] := List.concat_ne_nil c subject
  unfold checkEnding
  rw [Text.subject?_of_not_mem hfeed hne]
  dsimp only
  rw [List.getLast?_concat]
  dsimp only
  rw [if_pos hc]

theorem location_badEnding_concat (subject : Text) (c : Char) :
    (badEnding (subject ++ [c]) c).location = some ⟨0, subject.length, subject.length + 1⟩ := by
  have hlength : (subject ++ [c]).length = subject.length + 1 := List.length_append
  show some (⟨0, (subject ++ [c]).length - 1, (subject ++ [c]).length⟩ : Location) = _
  rw [hlength, Nat.add_sub_cancel]

theorem mendsEnding_concat (hfeed : '\n' ∉ subject ++ [c]) (hc : c ∈ endings) :
    MendsEnding (subject ++ [c]) (badEnding (subject ++ [c]) c) subject := by
  refine ⟨checkEnding_concat hfeed hc, ?_⟩
  show some (subject ++ [c]).dropLast = some subject
  rw [List.dropLast_concat]

theorem checkEnding_eq_nil (hfeed : '\n' ∉ kept)
    (hkept : ∀ c, kept.getLast? = some c → c ∉ endings) : checkEnding kept = [] := by
  rw [checkEnding_eq_nil_iff]
  intro subject hsubject
  by_cases hne : kept = []
  · subst hne
    cases hsubject
  · rw [Text.lines_of_not_mem hfeed hne] at hsubject
    cases hsubject
    exact hkept

/-! ## All suggestions -/

theorem Shortens.cons (h : Shortens subject steps)
    (hd : d.location = some ⟨0, subject.length, subject.length + 1⟩) :
    Shortens (subject ++ [c]) ((subject ++ [c], d) :: steps) := by
  intro i current d' hi
  cases i with
  | zero =>
    cases hi
    rw [Nat.sub_zero, List.take_length, List.length_append, List.length_singleton,
      Nat.add_sub_cancel]
    exact ⟨rfl, hd⟩
  | succ i =>
    obtain ⟨hcurrent, hlocation⟩ := h i current d' hi
    refine ⟨?_, hlocation⟩
    rw [hcurrent, List.length_append, List.length_singleton, Nat.add_sub_add_right,
      List.take_append_of_le_length (Nat.sub_le ..)]

namespace EndingRun

/-- There is never a choice of what to take. -/
theorem unique (h : EndingRun subject steps last) (h' : EndingRun subject steps' last') :
    steps = steps' ∧ last = last' := by
  induction h generalizing steps' with
  | silent hnone =>
    cases h' with
    | silent => exact ⟨rfl, rfl⟩
    | step hmends => exact absurd hnone hmends.ne_nil
  | step hmends _ ih =>
    cases h' with
    | silent hnone => exact absurd hnone hmends.ne_nil
    | step hmends' rest' =>
      have hsame := hmends.found
      rw [hmends'.found] at hsame
      cases hsame
      have hnext := hmends.suggested
      rw [hmends'.suggested] at hnext
      cases hnext
      obtain ⟨rfl, rfl⟩ := ih rest'
      exact ⟨rfl, rfl⟩

/-- The marks at the end of a subject are taken off from the last to the first. -/
theorem of_append (hfeed : '\n' ∉ kept ++ marks) (hmarks : ∀ c ∈ marks, c ∈ endings)
    (hkept : ∀ c, kept.getLast? = some c → c ∉ endings) :
    ∃ steps, EndingRun (kept ++ marks) steps kept ∧ steps.length = marks.length ∧
      Shortens (kept ++ marks) steps := by
  -- the last mark is the first to go, so the marks are taken in from the end
  induction marks using List.reverseRecOn with
  | nil =>
    rw [List.append_nil] at hfeed ⊢
    exact ⟨[], .silent (checkEnding_eq_nil hfeed hkept), rfl, fun i current d hi => by cases hi⟩
  | append_singleton marks c ih =>
    rw [← List.append_assoc] at hfeed ⊢
    have hfeed' : '\n' ∉ kept ++ marks := fun h => hfeed (List.mem_append_left [c] h)
    have hc : c ∈ endings := hmarks c (List.mem_append_right marks List.mem_cons_self)
    obtain ⟨steps, hrun, hlength, hshortens⟩ :=
      ih hfeed' fun x hx => hmarks x (List.mem_append_left [c] hx)
    refine ⟨_, .step (mendsEnding_concat hfeed hc) hrun, ?_, hshortens.cons ?_⟩
    · rw [List.length_cons, hlength, List.length_append, List.length_singleton]
    · exact location_badEnding_concat (kept ++ marks) c

end EndingRun

/-- A start of a subject that does not end in punctuation is a start of what is left without the
marks at the end. -/
theorem prefix_of_prefix_append {start : Text} (h : start <+: kept ++ marks)
    (hmarks : ∀ c ∈ marks, c ∈ endings) (hstart : ∀ c, start.getLast? = some c → c ∉ endings) :
    start <+: kept := by
  rcases List.prefix_or_prefix_of_prefix h (List.prefix_append kept marks) with hshort | hlong
  · exact hshort
  · obtain ⟨more, rfl⟩ := hlong
    have hmore : more <+: marks := (List.prefix_append_right_inj kept).mp h
    by_cases hne : more = []
    · subst hne
      exact ⟨[], by rw [List.append_nil, List.append_nil]⟩
    · have hlast : (kept ++ more).getLast? = some (more.getLast hne) := by
        rw [List.getLast?_append, List.getLast?_eq_some_getLast hne, Option.some_or]
      have hmark : more.getLast hne ∈ endings := hmarks _ (hmore.subset (List.getLast_mem hne))
      exact absurd hmark (hstart _ hlast)

/-- Taking the suggestions for a subject comes to an end, and in one way only. There is a diagnostic
for each of the marks that the subject ends in, at the last character of the subject as it is then,
and the subject at the end is the one without these marks, in which nothing is found. Every longer
start of the subject ends in such a mark. -/
theorem suggestions_take_off_punctuation (subject : Text) (h : '\n' ∉ subject) :
    let kept := subject.rdropWhile (· ∈ endings)
    let marks := subject.rtakeWhile (· ∈ endings)
    (∃ steps, EndingRun subject steps kept) ∧
    (∀ steps last, EndingRun subject steps last → last = kept ∧ steps.length = marks.length ∧
      ∀ i current d, steps[i]? = some (current, d) →
        current = subject.take (subject.length - i) ∧
          d.location = some ⟨0, current.length - 1, current.length⟩) ∧
    checkEnding kept = [] ∧ kept ++ marks = subject ∧ (∀ c ∈ marks, c ∈ endings) ∧
    ∀ start, start <+: subject → (∀ c, start.getLast? = some c → c ∉ endings) → start <+: kept := by
  intro kept marks
  have hsplit : kept ++ marks = subject := List.rdropWhile_append_rtakeWhile
  have hmarks : ∀ c ∈ marks, c ∈ endings := fun c hc => by
    simpa using List.mem_rtakeWhile_imp hc
  have hkept : ∀ c, kept.getLast? = some c → c ∉ endings := by
    intro c hc
    have hne : kept ≠ [] := by
      intro hnil
      rw [hnil] at hc
      cases hc
    rw [List.getLast?_eq_some_getLast hne] at hc
    cases hc
    simpa using List.rdropWhile_last_not (· ∈ endings) subject hne
  rw [← hsplit] at h
  obtain ⟨steps, hrun, hlength, hshortens⟩ := EndingRun.of_append h hmarks hkept
  rw [hsplit] at hrun hshortens h
  refine ⟨⟨steps, hrun⟩, ?_, ?_, hsplit, hmarks, ?_⟩
  · intro steps' last' hrun'
    obtain ⟨rfl, rfl⟩ := hrun.unique hrun'
    exact ⟨rfl, hlength, hshortens⟩
  · refine checkEnding_eq_nil (fun hmem => h ?_) hkept
    rw [← hsplit]
    exact List.mem_append_left marks hmem
  · intro start hstart hlast
    rw [← hsplit] at hstart
    exact prefix_of_prefix_append hstart hmarks hlast

/-- Two marks come off this subject, and the accented letter before them stays. -/
theorem suggestions_take_off_punctuation_cafe :
    '\n' ∉ "Open the café?!".toList ∧
    (∃ steps, EndingRun "Open the café?!".toList steps "Open the café".toList) ∧
    ∀ steps last, EndingRun "Open the café?!".toList steps last →
      last = "Open the café".toList ∧ steps.length = 2 := by
  have hfeed : '\n' ∉ "Open the café?!".toList := by decide
  have hkept : "Open the café?!".toList.rdropWhile (· ∈ endings) = "Open the café".toList := by
    decide
  have hmarks : "Open the café?!".toList.rtakeWhile (· ∈ endings) = ['?', '!'] := by
    decide
  obtain ⟨hexists, hall, -⟩ := suggestions_take_off_punctuation "Open the café?!".toList hfeed
  rw [hkept] at hexists hall
  refine ⟨hfeed, hexists, fun steps last hrun => ?_⟩
  obtain ⟨hlast, hlength, -⟩ := hall steps last hrun
  rw [hmarks] at hlength
  exact ⟨hlast, hlength⟩

end CommitGate.Policy
