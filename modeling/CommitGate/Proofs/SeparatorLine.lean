import CommitGate.Proofs.LineEndings

/-!
# An empty line after the subject

The suggestion for a second line with content puts an empty line before it. The rules find in the
message what they found before, one row further down below the subject, and nothing in the new line.
Only the blanks around the old second line have been nobody's business before: now that it is a line
of the body, the rule on margins looks at it as well.
-/

namespace CommitGate

/-- A location one row further down, unless it is on the first row. -/
def Location.movedDown (l : Location) : Location :=
  if 1 ≤ l.line then { l with line := l.line + 1 } else l

/-- A diagnostic for one row further down, unless it is about the first row. -/
def Diagnostic.movedDown (d : Diagnostic) : Diagnostic :=
  { d with location := d.location.map Location.movedDown }

namespace Text

/-- Lines that are joined with further lines after they have been joined among themselves. -/
theorem joinLines_joinLines_cons {ls : List Text} (hne : ls ≠ []) (rest : List Text) :
    joinLines (joinLines ls :: rest) = joinLines (ls ++ rest) := by
  by_cases hrest : rest = []
  · subst hrest
    rw [joinLines, List.intercalate_singleton, List.append_nil]
  · rw [joinLines, joinLines, joinLines, List.intercalate_cons_of_ne_nil hrest,
      intercalate_append _ hne hrest]

end Text

namespace Policy

variable {m m' subject line : Text} {rest : List Text} {f : Nat → Text → List Diagnostic}

/-! ## Rules that look at one line after the other -/

/-- What is found on lines of which the first has the given row. -/
def byLine (f : Nat → Text → List Diagnostic) (first : Nat) (lines : List Text) : List Diagnostic :=
  (lines.zipIdx first).flatMap fun (line, row) => f row line

theorem byLine_cons (first : Nat) (line : Text) (rest : List Text) :
    byLine f first (line :: rest) = f first line ++ byLine f (first + 1) rest := by
  rw [byLine, List.zipIdx_cons, List.flatMap_cons]
  rfl

/-- What is found on a line does not depend on its row, as long as it is neither the first line nor
the second one, and nothing is found on an empty second line. -/
structure RowFree (f : Nat → Text → List Diagnostic) : Prop where
  first : ∀ line, (f 0 line).map Diagnostic.movedDown = f 0 line
  second : f secondRow [] = []
  below : ∀ row line, secondRow < row → f (row + 1) line = (f row line).map Diagnostic.movedDown

theorem RowFree.byLine_succ (hf : RowFree f) {first : Nat} (hfirst : secondRow < first)
    (lines : List Text) : byLine f (first + 1) lines = (byLine f first lines).map .movedDown := by
  induction lines generalizing first with
  | nil => rfl
  | cons line rest ih =>
    have hrest := ih (Nat.lt_succ_of_lt hfirst)
    rw [byLine_cons, byLine_cons, hf.below first line hfirst, hrest, List.map_append]

/-- With an empty line put before the second one, what is found on the other lines moves down. -/
theorem RowFree.byLine_insert (hf : RowFree f) (subject line : Text) (rest : List Text) :
    byLine f 0 (subject :: [] :: line :: rest) =
      (f 0 subject).map .movedDown ++
        (f (secondRow + 1) line ++ (byLine f 2 rest).map .movedDown) := by
  have hsecond : f (0 + 1) [] = [] := hf.second
  have hbelow : byLine f (0 + 1 + 1 + 1) rest = (byLine f 2 rest).map .movedDown :=
    hf.byLine_succ (by decide) rest
  rw [byLine_cons, byLine_cons, byLine_cons, hsecond, List.nil_append, hbelow, hf.first]
  rfl

/-- What the rule on line length finds on a line. -/
def lengthAt (row : Nat) (line : Text) : List Diagnostic :=
  (if lineLimit < line.length then some (lineTooLong row line.length) else none).toList

/-- What the rule on lines of blanks finds on a line. -/
def blanksAt (row : Nat) (line : Text) : List Diagnostic :=
  (if row ≠ secondRow ∧ line.isAllBlank then some (blankLine row line) else none).toList

/-- What the rule on margins finds on a line. -/
def marginsAt (row : Nat) (line : Text) : List Diagnostic :=
  if row = secondRow ∨ line = [] ∨ line.isAllBlank then []
  else leadingBlanks row line ++ trailingBlanks row line

theorem checkLineLength_eq_byLine (m : Text) : checkLineLength m = byLine lengthAt 0 m.lines :=
  List.filterMap_eq_flatMap_toList _ _

theorem checkBlankLines_eq_byLine (m : Text) : checkBlankLines m = byLine blanksAt 0 m.lines :=
  List.filterMap_eq_flatMap_toList _ _

theorem checkMargins_eq_byLine (m : Text) : checkMargins m = byLine marginsAt 0 m.lines := rfl

section MovedDown

variable {row start stop : Nat} {hint help : Text}

theorem movedDown_lineTooLong (h : 0 < row) (length : Nat) :
    (lineTooLong row length).movedDown = lineTooLong (row + 1) length := by
  have hne : row ≠ 0 := Nat.pos_iff_ne_zero.mp h
  have hrow : 1 ≤ row := h
  unfold lineTooLong Diagnostic.movedDown Location.movedDown
  dsimp only [Option.map_some]
  rw [if_neg hne, if_neg hne, if_pos hrow, if_neg row.succ_ne_zero, if_neg row.succ_ne_zero]

theorem movedDown_blankLine (h : 0 < row) (line : Text) :
    (blankLine row line).movedDown = blankLine (row + 1) line := by
  have hrow : 1 ≤ row := h
  unfold blankLine Diagnostic.movedDown Location.movedDown
  dsimp only [Option.map_some]
  rw [if_pos hrow]

theorem movedDown_untrimmed (h : 0 < row) :
    (untrimmed row start stop hint help).movedDown = untrimmed (row + 1) start stop hint help := by
  have hrow : 1 ≤ row := h
  unfold untrimmed Diagnostic.movedDown Location.movedDown
  dsimp only [Option.map_some]
  rw [if_pos hrow]

theorem map_movedDown_leadingBlanks (h : 0 < row) (line : Text) :
    (leadingBlanks row line).map .movedDown = leadingBlanks (row + 1) line := by
  unfold leadingBlanks
  dsimp only
  split_ifs
  · rw [List.map_singleton, movedDown_untrimmed h]
  · rfl

theorem map_movedDown_trailingBlanks (h : 0 < row) (line : Text) :
    (trailingBlanks row line).map .movedDown = trailingBlanks (row + 1) line := by
  unfold trailingBlanks
  dsimp only
  split_ifs
  · rw [List.map_singleton, movedDown_untrimmed h]
  · rfl

end MovedDown

/-- A diagnostic about the first row stays there. -/
theorem movedDown_of_location {d : Diagnostic} {l : Location} (h : d.location = some l)
    (hrow : l.line = 0) : d.movedDown = d := by
  have hstays : l.movedDown = l := by
    unfold Location.movedDown
    rw [if_neg (by omega)]
  have hlocation : d.location.map Location.movedDown = d.location := by
    rw [h, Option.map_some, hstays]
  unfold Diagnostic.movedDown
  rw [hlocation]

theorem map_movedDown_eq_self {ds : List Diagnostic}
    (h : ∀ d ∈ ds, ∃ l, d.location = some l ∧ l.line = 0) : ds.map .movedDown = ds := by
  refine (List.map_congr_left fun d hd => ?_).trans (List.map_id ds)
  obtain ⟨l, hl, hrow⟩ := h d hd
  exact movedDown_of_location hl hrow

theorem lengthAt_succ {row : Nat} (h : 0 < row) (line : Text) :
    lengthAt (row + 1) line = (lengthAt row line).map .movedDown := by
  unfold lengthAt
  split_ifs
  · show _ = [(lineTooLong row line.length).movedDown]
    rw [movedDown_lineTooLong h]
    rfl
  · rfl

theorem rowFree_lengthAt : RowFree lengthAt where
  first line := by
    unfold lengthAt
    split_ifs
    · rfl
    · rfl
  second := rfl
  below row line hrow := lengthAt_succ (Nat.zero_lt_of_lt hrow) line

theorem rowFree_blanksAt : RowFree blanksAt where
  first line := by
    unfold blanksAt
    split_ifs
    · rfl
    · rfl
  second := rfl
  below row line hrow := by
    have hpos : 0 < row := Nat.zero_lt_of_lt hrow
    have hne : row ≠ secondRow := Nat.ne_of_gt hrow
    have hne' : row + 1 ≠ secondRow := Nat.ne_of_gt (Nat.lt_succ_of_lt hrow)
    unfold blanksAt
    by_cases hblank : line.isAllBlank = true
    · rw [if_pos ⟨hne', hblank⟩, if_pos ⟨hne, hblank⟩]
      show _ = [(blankLine row line).movedDown]
      rw [movedDown_blankLine hpos]
      rfl
    · rw [if_neg (fun h => hblank h.2), if_neg (fun h => hblank h.2)]
      rfl

theorem location_of_mem_marginsAt {d : Diagnostic} {row : Nat} (h : d ∈ marginsAt row line) :
    ∃ l, d.location = some l ∧ l.line = row := by
  unfold marginsAt at h
  rw [List.mem_ite_nil_left, List.mem_append] at h
  rcases h.2 with h | h
  · rw [(mem_leadingBlanks_iff.mp h).2]
    exact ⟨_, rfl, rfl⟩
  · rw [(mem_trailingBlanks_iff.mp h).2]
    exact ⟨_, rfl, rfl⟩

theorem rowFree_marginsAt : RowFree marginsAt where
  first line := map_movedDown_eq_self fun d hd => location_of_mem_marginsAt hd
  second := rfl
  below row line hrow := by
    have hpos : 0 < row := Nat.zero_lt_of_lt hrow
    have hne : row ≠ secondRow := Nat.ne_of_gt hrow
    have hne' : row + 1 ≠ secondRow := Nat.ne_of_gt (Nat.lt_succ_of_lt hrow)
    unfold marginsAt
    by_cases hskip : line = [] ∨ line.isAllBlank = true
    · rw [if_pos (Or.inr hskip), if_pos (Or.inr hskip)]
      rfl
    · rw [if_neg (not_or.mpr ⟨hne', hskip⟩), if_neg (not_or.mpr ⟨hne, hskip⟩), List.map_append,
        map_movedDown_leadingBlanks hpos, map_movedDown_trailingBlanks hpos]

/-! ## The rules with an empty line inserted -/

section Inserted

variable (h : m.lines = subject :: line :: rest) (h' : m'.lines = subject :: [] :: line :: rest)
include h h'

theorem checkLineLength_of_inserted : checkLineLength m' = (checkLineLength m).map .movedDown := by
  have hline : lengthAt (secondRow + 1) line = (lengthAt secondRow line).map .movedDown :=
    lengthAt_succ Nat.one_pos line
  rw [checkLineLength_eq_byLine, checkLineLength_eq_byLine, h, h', rowFree_lengthAt.byLine_insert,
    hline, byLine_cons, byLine_cons, List.map_append, List.map_append]
  rfl

theorem checkBlankLines_of_inserted (hcontent : line.isAllBlank = false) :
    checkBlankLines m' = (checkBlankLines m).map .movedDown := by
  have hnone : ∀ row, blanksAt row line = [] := by
    intro row
    unfold blanksAt
    rw [hcontent, if_neg (fun hblank => absurd hblank.2 (by decide))]
    rfl
  rw [checkBlankLines_eq_byLine, checkBlankLines_eq_byLine, h, h', rowFree_blanksAt.byLine_insert,
    byLine_cons, byLine_cons, hnone, hnone, List.map_append]
  rfl

/-- The margins of the old second line are found in addition. -/
theorem checkMargins_of_inserted (hne : line ≠ []) (hcontent : line.isAllBlank = false) :
    checkMargins m = marginsAt 0 subject ++ byLine marginsAt 2 rest ∧
    checkMargins m' = (marginsAt 0 subject).map .movedDown ++
      (leadingBlanks 2 line ++ trailingBlanks 2 line) ++
        (byLine marginsAt 2 rest).map .movedDown := by
  have hexempt : marginsAt (0 + 1) line = [] := if_pos (Or.inl rfl)
  have hline : marginsAt (secondRow + 1) line = leadingBlanks 2 line ++ trailingBlanks 2 line := by
    unfold marginsAt
    rw [hcontent, if_neg]
    · rfl
    · simp [hne, secondRow]
  constructor
  · rw [checkMargins_eq_byLine, h, byLine_cons, byLine_cons, hexempt]
    rfl
  · rw [checkMargins_eq_byLine, h', rowFree_marginsAt.byLine_insert, hline]
    exact (List.append_assoc ..).symm

theorem subject?_of_inserted : m'.subject? = m.subject? := by
  rw [Text.subject?, Text.subject?, h, h']
  rfl

theorem checkEnding_of_inserted : checkEnding m' = (checkEnding m).map .movedDown := by
  rw [checkEnding_congr (subject?_of_inserted h h'), map_movedDown_eq_self]
  intro d hd
  obtain ⟨subject, ending, -, -, -, rfl⟩ := mem_checkEnding_iff.mp hd
  exact ⟨_, rfl, rfl⟩

theorem checkCasing_of_inserted : checkCasing m' = (checkCasing m).map .movedDown := by
  rw [checkCasing_congr (subject?_of_inserted h h'), map_movedDown_eq_self]
  intro d hd
  obtain ⟨subject, -, hcase⟩ := mem_checkCasing_iff.mp hd
  rcases hcase with ⟨-, rfl⟩ | ⟨-, rfl⟩ | ⟨first, rest, -, rfl⟩
  · exact ⟨_, rfl, rfl⟩
  · exact ⟨_, rfl, rfl⟩
  · exact ⟨_, rfl, rfl⟩

end Inserted

theorem checkSecondLine_of_inserted (h : m.lines = subject :: [] :: rest) :
    checkSecondLine m = [] := by
  unfold checkSecondLine
  rw [h]
  exact if_pos rfl

/-! ## The suggested message -/

theorem exists_of_mem_byLine {d : Diagnostic} {first : Nat} {lines : List Text}
    (h : d ∈ byLine f first lines) : ∃ row line, first ≤ row ∧ d ∈ f row line := by
  obtain ⟨⟨line, row⟩, hmem, hd⟩ := List.mem_flatMap.mp h
  exact ⟨row, line, List.le_snd_of_mem_zipIdx hmem, hd⟩

/-- A second line with content has one diagnostic, and its help suggests the separated lines. -/
theorem checkSecondLine_of_content (h : m.lines = subject :: line :: rest) (hne : line ≠ [])
    (hcontent : line.isAllBlank = false) :
    checkSecondLine m = [secondLineNotEmpty subject line] ∧
    (secondLineNotEmpty subject line).help.bind Help.suggestion? =
      some (Text.joinLines [subject, [], line]) := by
  constructor
  · unfold checkSecondLine
    rw [h]
    exact if_neg hne
  · unfold secondLineNotEmpty
    rw [hcontent]
    rfl

/-- The message with its second line separated has the separated lines, whether it ends in a line
feed or not: a rule sees no difference. -/
theorem check_separated (hreturn : '\r' ∉ m) (h : m.lines = subject :: line :: rest)
    (hm' : m' = Text.joinLines (Text.joinLines [subject, [], line] :: rest) ∨
      m' = Text.line (Text.joinLines (Text.joinLines [subject, [], line] :: rest))) :
    ∃ separated : Text, separated.lines = subject :: [] :: line :: rest ∧
      ∀ rule : Rule, rule.check m' = rule.check separated := by
  have hjoined := Text.joinLines_joinLines_cons (List.cons_ne_nil subject [[], line]) rest
  rw [hjoined] at hm'
  have hold : ∀ l ∈ subject :: [] :: line :: rest, l = [] ∨ l ∈ m.lines := by
    intro l hl
    rw [h]
    simp only [List.mem_cons] at hl ⊢
    tauto
  have hfeed : ∀ l ∈ subject :: [] :: line :: rest, '\n' ∉ l := by
    intro l hl
    rcases hold l hl with rfl | hmem
    · exact List.not_mem_nil
    · exact Text.newline_not_mem_of_mem_lines hmem
  have hno : ∀ l ∈ subject :: [] :: line :: rest, '\r' ∉ l := by
    intro l hl
    rcases hold l hl with rfl | hmem
    · exact List.not_mem_nil
    · exact fun hc => hreturn (Text.subset_of_mem_lines hmem hc)
  have hlines : (Text.line (Text.joinLines (subject :: [] :: line :: rest))).lines =
      subject :: [] :: line :: rest :=
    Text.lines_line_joinLines (List.cons_ne_nil _ _) hfeed
      fun l hl hlast => hno l hl (List.mem_of_getLast? hlast)
  refine ⟨_, hlines, fun rule => ?_⟩
  rcases hm' with rfl | rfl
  · -- a carriage return at the end would be dropped with a line feed only; there is none
    refine (rule.check_line fun hlast => ?_).symm
    rcases Text.mem_joinLines (List.mem_of_getLast? hlast) with hc | ⟨l, hl, hc⟩
    · exact absurd hc (by decide)
    · exact hno l hl hc
  · rfl

/-- If the second line of a message has content, then the suggestion of its rule, with the remaining
lines after it, has an empty second line, and the other rules find in it what they found in the
message, one row further down below the first. The rule on margins finds in addition the blanks
around the line that was the second one. -/
theorem separator_moves_diagnostics (m subject line : Text) (rest : List Text) (hreturn : '\r' ∉ m)
    (hlines : m.lines = subject :: line :: rest) (hcontent : ∃ c ∈ line, Text.isBlank c = false) :
    ∃ d suggestion, checkSecondLine m = [d] ∧ d.help.bind Help.suggestion? = some suggestion ∧
      ∀ m', m' = Text.joinLines (suggestion :: rest) ∨
          m' = Text.line (Text.joinLines (suggestion :: rest)) →
        checkSecondLine m' = [] ∧
        checkLineLength m' = (checkLineLength m).map .movedDown ∧
        checkEnding m' = (checkEnding m).map .movedDown ∧
        checkCasing m' = (checkCasing m).map .movedDown ∧
        checkBlankLines m' = (checkBlankLines m).map .movedDown ∧
        ∃ above below, checkMargins m = above ++ below ∧
          (∀ d ∈ above, ∃ l, d.location = some l ∧ l.line = 0) ∧
          (∀ d ∈ below, ∃ l, d.location = some l ∧ 2 ≤ l.line) ∧
          checkMargins m' = above.map .movedDown ++
            (leadingBlanks 2 line ++ trailingBlanks 2 line) ++ below.map .movedDown := by
  obtain ⟨c, hc, hblank⟩ := hcontent
  have hne : line ≠ [] := List.ne_nil_of_mem hc
  have hnot := Text.isAllBlank_eq_false_iff.mpr (.inr ⟨c, hc, hblank⟩)
  obtain ⟨hfound, hsuggested⟩ := checkSecondLine_of_content hlines hne hnot
  refine ⟨_, _, hfound, hsuggested, fun m' hm' => ?_⟩
  obtain ⟨separated, hseparated, hsame⟩ := check_separated hreturn hlines hm'
  have hmargins := checkMargins_of_inserted hlines hseparated hne hnot
  refine ⟨?_, ?_, ?_, ?_, ?_, marginsAt 0 subject, byLine marginsAt 2 rest, hmargins.1, ?_, ?_, ?_⟩
  · exact (hsame .secondLine).trans (checkSecondLine_of_inserted hseparated)
  · exact (hsame .lineLength).trans (checkLineLength_of_inserted hlines hseparated)
  · exact (hsame .ending).trans (checkEnding_of_inserted hlines hseparated)
  · exact (hsame .casing).trans (checkCasing_of_inserted hlines hseparated)
  · exact (hsame .blankLines).trans (checkBlankLines_of_inserted hlines hseparated hnot)
  · exact fun d hd => location_of_mem_marginsAt hd
  · intro d hd
    obtain ⟨row, line, hrow, hd⟩ := exists_of_mem_byLine hd
    obtain ⟨l, hl, hline⟩ := location_of_mem_marginsAt hd
    exact ⟨l, hl, hline ▸ hrow⟩
  · exact (hsame .margins).trans hmargins.2

/-- A message whose second line is indented, and is longer than a line may be. -/
def crowded : Text := "Fix the lexer\n  ".toList ++ List.replicate 72 'x' ++ "\n \n".toList

/-- In `crowded`, the second line is too long and the third one is blank; with the separator they
are the third and the fourth. -/
theorem separator_moves_diagnostics_crowded :
    '\r' ∉ crowded ∧
    crowded.lines = ["Fix the lexer".toList, "  ".toList ++ List.replicate 72 'x', [' ']] ∧
    (∃ c ∈ "  ".toList ++ List.replicate 72 'x', Text.isBlank c = false) ∧
    ∃ suggestion, checkLineLength (Text.joinLines [suggestion, [' ']]) = [lineTooLong 2 74] ∧
      checkBlankLines (Text.joinLines [suggestion, [' ']]) = [blankLine 3 [' ']] ∧
      checkSecondLine (Text.joinLines [suggestion, [' ']]) = [] := by
  have hreturn : '\r' ∉ crowded := by decide +kernel
  have hlines : crowded.lines =
      ["Fix the lexer".toList, "  ".toList ++ List.replicate 72 'x', [' ']] := by decide +kernel
  have hcontent : ∃ c ∈ "  ".toList ++ List.replicate 72 'x', Text.isBlank c = false :=
    ⟨'x', by decide +kernel, by decide⟩
  have hlong : checkLineLength crowded = [lineTooLong 1 74] := by decide +kernel
  have hblank : checkBlankLines crowded = [blankLine 2 [' ']] := by decide +kernel
  obtain ⟨d, suggestion, -, -, hall⟩ :=
    separator_moves_diagnostics crowded _ _ _ hreturn hlines hcontent
  obtain ⟨hsecond, hlength, -, -, hblanks, -⟩ := hall _ (.inl rfl)
  rw [hlong] at hlength
  rw [hblank] at hblanks
  exact ⟨hreturn, hlines, hcontent, suggestion, hlength, hblanks, hsecond⟩

end Policy

end CommitGate
