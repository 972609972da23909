import CommitGate.Proofs.CleanSpacing
import CommitGate.Proofs.Conformity

/-!
# Deleting the highlighted blanks

Diagnostics on blanks highlight what should not be there. If it is deleted, then every line but the
second is trimmed and the second is empty or as it was, and the rules on blanks have nothing to say
about the lines when they are joined again.
-/

namespace CommitGate

variable {line a b c : Text} {gone : Nat → Bool}

/-- Whether a diagnostic highlights a column of a row. -/
def Diagnostic.covers (d : Diagnostic) (row column : Nat) : Bool :=
  d.location.any fun l => l.line = row && l.start ≤ column && column < l.stop

namespace Text

/-- A line without some of its columns; `first` is the column that it starts with. -/
def withoutColumns (gone : Nat → Bool) (first : Nat) (line : Text) : Text :=
  ((line.zipIdx first).filter fun (_, column) => !gone column).map (·.1)

/-! ## Lines with columns deleted -/

theorem withoutColumns_append (first : Nat) (a b : Text) : withoutColumns gone first (a ++ b) =
    withoutColumns gone first a ++ withoutColumns gone (first + a.length) b := by
  rw [withoutColumns, List.zipIdx_append, List.filter_append, List.map_append]
  rfl

theorem withoutColumns_eq_nil {first : Nat}
    (h : ∀ column, first ≤ column → column < first + line.length → gone column = true) :
    withoutColumns gone first line = [] := by
  rw [withoutColumns, List.map_eq_nil_iff, List.filter_eq_nil_iff]
  rintro ⟨x, column⟩ hmem
  obtain ⟨hfirst, hlast, -⟩ := List.mem_zipIdx hmem
  simp [h column hfirst hlast]

theorem withoutColumns_eq_self {first : Nat}
    (h : ∀ column, first ≤ column → column < first + line.length → gone column = false) :
    withoutColumns gone first line = line := by
  have hall : (line.zipIdx first).filter (fun (_, column) => !gone column) = line.zipIdx first := by
    rw [List.filter_eq_self]
    rintro ⟨x, column⟩ hmem
    obtain ⟨hfirst, hlast, -⟩ := List.mem_zipIdx hmem
    simp [h column hfirst hlast]
  rw [withoutColumns, hall]
  exact List.zipIdx_map_fst first line

theorem withoutColumns_subset (first : Nat) (line : Text) :
    withoutColumns gone first line ⊆ line := by
  intro x hx
  obtain ⟨⟨y, column⟩, hmem, rfl⟩ := List.mem_map.mp hx
  exact List.fst_mem_of_mem_zipIdx (List.mem_of_mem_filter hmem)

/-- Deleting the columns at both ends leaves what is between them. -/
theorem withoutColumns_ends
    (h : ∀ column, column < (a ++ b ++ c).length →
      (gone column = true ↔ column < a.length ∨ a.length + b.length ≤ column)) :
    withoutColumns gone 0 (a ++ b ++ c) = b := by
  simp only [List.length_append] at h
  have ha : withoutColumns gone 0 a = [] := by
    refine withoutColumns_eq_nil fun column _ hlast => ?_
    rw [h column (by omega)]
    omega
  have hb : withoutColumns gone (0 + a.length) b = b := by
    refine withoutColumns_eq_self fun column hfirst hlast => ?_
    rw [← Bool.not_eq_true, h column (by omega)]
    omega
  have hc : withoutColumns gone (0 + (a ++ b).length) c = [] := by
    rw [List.length_append]
    refine withoutColumns_eq_nil fun column hfirst hlast => ?_
    rw [h column (by omega)]
    omega
  rw [withoutColumns_append, withoutColumns_append, ha, hb, hc, List.nil_append, List.append_nil]

/-! ## The two ends of a line -/

theorem trimEnd_append (h : b.trimEnd ≠ []) : (a ++ b).trimEnd = a ++ b.trimEnd := by
  unfold trimEnd at h ⊢
  rw [ne_eq, List.reverse_eq_nil_iff, ← List.isEmpty_iff] at h
  rw [List.reverse_append, List.dropWhile_append, if_neg h, List.reverse_append,
    List.reverse_reverse]

theorem trim_ne_nil (hne : line ≠ []) (hcontent : line.isAllBlank = false) : line.trim ≠ [] := by
  intro hnil
  have hrest : ∀ x ∈ line.trimStart, isBlank x = true := List.rdropWhile_eq_nil_iff.mp hnil
  have hall : ∀ x ∈ line, isBlank x = true := by
    intro x hx
    rw [← List.takeWhile_append_dropWhile (p := isBlank) (l := line), List.mem_append] at hx
    rcases hx with hx | hx
    · exact List.mem_takeWhile_imp hx
    · exact hrest x hx
  rw [isAllBlank_iff.mpr ⟨hne, hall⟩] at hcontent
  cases hcontent

theorem trim_eq_nil (h : line.isAllBlank = true) : line.trim = [] := by
  have hstart : line.trimStart = [] :=
    List.dropWhile_eq_nil_iff.mpr fun x hx => (isAllBlank_iff.mp h).2 x hx
  rw [trim, hstart]
  rfl

/-- A line with content is made of the blanks before its content, the content, and the blanks after
it. -/
theorem exists_blanks_around (hne : line ≠ []) (hcontent : line.isAllBlank = false) :
    ∃ before after, line = before ++ line.trim ++ after ∧
      (∀ x ∈ before, isBlank x = true) ∧ (∀ x ∈ after, isBlank x = true) ∧
      before.length = line.length - line.trimStart.length ∧
      line.trimEnd.length = before.length + line.trim.length := by
  have hstart : line.takeWhile isBlank ++ line.trimStart = line := List.takeWhile_append_dropWhile
  have hend : line.trim ++ line.trimStart.rtakeWhile isBlank = line.trimStart :=
    List.rdropWhile_append_rtakeWhile
  have htrimEnd : line.trimEnd = line.takeWhile isBlank ++ line.trim := by
    calc line.trimEnd = trimEnd (line.takeWhile isBlank ++ line.trimStart) := by rw [hstart]
      _ = line.takeWhile isBlank ++ line.trim := trimEnd_append (trim_ne_nil hne hcontent)
  refine ⟨line.takeWhile isBlank, line.trimStart.rtakeWhile isBlank, ?_,
    fun x hx => List.mem_takeWhile_imp hx, fun x hx => List.mem_rtakeWhile_imp hx, ?_, ?_⟩
  · rw [List.append_assoc, hend, hstart]
  · exact (length_sub_length_trimStart line).symm
  · rw [htrimEnd, List.length_append]

/-! ## Lines that are joined again -/

theorem mem_dropReturn {x : Char} (h : x ∈ line) (hreturn : x ≠ '\r') : x ∈ dropReturn line := by
  unfold dropReturn
  split_ifs with hlast
  · obtain ⟨front, rfl⟩ := List.getLast?_eq_some_iff.mp hlast
    rw [List.dropLast_concat]
    rcases List.mem_append.mp h with hfront | hend
    · exact hfront
    · exact absurd (List.mem_singleton.mp hend) hreturn
  · exact h

theorem isAllBlank_dropReturn (h : line.isAllBlank = false) :
    (dropReturn line).isAllBlank = false := by
  rcases isAllBlank_eq_false_iff.mp h with rfl | ⟨x, hx, hcontent⟩
  · rfl
  · have hreturn : x ≠ '\r' := by
      rintro rfl
      exact absurd hcontent (by decide)
    exact isAllBlank_eq_false_iff.mpr (.inr ⟨x, mem_dropReturn hx hreturn, hcontent⟩)

end Text

namespace Policy

variable {m : Text} {d : Diagnostic} {row column : Nat}

/-! ## What is highlighted -/

/-- Whether a diagnostic is about blanks that should not be there. -/
def isOnBlanks (d : Diagnostic) : Bool :=
  d.code = some Rule.margins.code || d.code = some Rule.blankLines.code ||
    (d.code = some Rule.secondLine.code &&
      d.hint = some "non-empty second line (these characters are whitespace)".toList)

/-- The diagnostics of a review that are about blanks. -/
def blanksFound (m : Text) : List Diagnostic := (review m).filter isOnBlanks

/-- Whether a diagnostic about blanks highlights a column of a row. -/
def isHighlighted (m : Text) (row column : Nat) : Bool := (blanksFound m).any (·.covers row column)

/-- The lines of a message without what the diagnostics about blanks highlight. -/
def linesWithoutBlanks (m : Text) : List Text :=
  m.lines.zipIdx.map fun (line, row) => Text.withoutColumns (isHighlighted m row) 0 line

theorem mem_blanksFound_iff : d ∈ blanksFound m ↔ d ∈ checkMargins m ∨ d ∈ checkBlankLines m ∨
    (d ∈ checkSecondLine m ∧
      d.hint = some "non-empty second line (these characters are whitespace)".toList) := by
  show d ∈ blanksFound m ↔ d ∈ Rule.margins.check m ∨ d ∈ Rule.blankLines.check m ∨
    d ∈ Rule.secondLine.check m ∧ _
  rw [Rule.mem_check_iff, Rule.mem_check_iff, Rule.mem_check_iff, blanksFound, List.mem_filter]
  simp only [isOnBlanks, Bool.or_eq_true, Bool.and_eq_true, decide_eq_true_eq, and_or_left,
    or_assoc, and_assoc]

theorem hint_secondLineNotEmpty_iff {subject : Text} : (secondLineNotEmpty subject line).hint =
    some "non-empty second line (these characters are whitespace)".toList ↔
      line.isAllBlank = true := by
  unfold secondLineNotEmpty
  dsimp only
  split_ifs with hblank
  · exact iff_of_true rfl hblank
  · exact iff_of_false (by decide) hblank

theorem isHighlighted_iff : isHighlighted m row column = true ↔
    ∃ d ∈ blanksFound m, ∃ l, d.location = some l ∧ l.line = row ∧ l.start ≤ column ∧
      column < l.stop := by
  unfold isHighlighted Diagnostic.covers
  simp only [List.any_eq_true, Option.any_eq_true, Bool.and_eq_true, decide_eq_true_eq, and_assoc]

theorem isHighlighted_of_isAllBlank (hline : m.lines[row]? = some line)
    (hblank : line.isAllBlank = true) (hcolumn : column < line.length) :
    isHighlighted m row column = true := by
  rw [isHighlighted_iff]
  by_cases hrow : row = secondRow
  · subst hrow
    have hlast : secondRow < m.lines.length := (List.getElem?_eq_some_iff.mp hline).1
    have hfirst : 0 < m.lines.length := Nat.zero_lt_of_lt hlast
    have hne : line ≠ [] := (Text.isAllBlank_iff.mp hblank).1
    have hfound : secondLineNotEmpty m.lines[0] line ∈ checkSecondLine m :=
      mem_checkSecondLine_iff.mpr ⟨_, line, List.getElem?_eq_getElem hfirst, hline, hne, rfl⟩
    have hhint : (secondLineNotEmpty m.lines[0] line).hint = _ :=
      hint_secondLineNotEmpty_iff.mpr hblank
    exact ⟨_, mem_blanksFound_iff.mpr (.inr (.inr ⟨hfound, hhint⟩)), _, rfl, rfl, Nat.zero_le _,
      hcolumn⟩
  · have hfound : blankLine row line ∈ checkBlankLines m :=
      mem_checkBlankLines_iff.mpr ⟨row, line, hline, ⟨hrow, hblank⟩, rfl⟩
    exact ⟨_, mem_blanksFound_iff.mpr (.inr (.inl hfound)), _, rfl, rfl, Nat.zero_le _, hcolumn⟩

theorem isHighlighted_of_margin (hline : m.lines[row]? = some line) (hrow : row ≠ secondRow)
    (hcontent : line.isAllBlank = false)
    (hcolumn : column < line.length - line.trimStart.length ∨
      line.trimEnd.length ≤ column ∧ column < line.length) : isHighlighted m row column = true := by
  rw [isHighlighted_iff]
  have hne : line ≠ [] := by
    rintro rfl
    simp at hcolumn
  have hfound (d : Diagnostic) (hd : d ∈ leadingBlanks row line ∨ d ∈ trailingBlanks row line) :
      d ∈ blanksFound m :=
    mem_blanksFound_iff.mpr <| .inl <|
      mem_checkMargins_iff.mpr ⟨row, line, hline, hrow, hne, hcontent, hd⟩
  rcases hcolumn with hleading | ⟨hkept, htrailing⟩
  · have hlt : line.trimStart.length < line.length := by omega
    have hd : _ ∈ leadingBlanks row line := mem_leadingBlanks_iff.mpr ⟨hlt, rfl⟩
    exact ⟨_, hfound _ (.inl hd), _, rfl, rfl, Nat.zero_le _, hleading⟩
  · have hlt : line.trimEnd.length < line.length := by omega
    have hd : _ ∈ trailingBlanks row line := mem_trailingBlanks_iff.mpr ⟨hlt, rfl⟩
    exact ⟨_, hfound _ (.inr hd), _, rfl, rfl, hkept, htrailing⟩

/-- On a line of blanks all columns are highlighted. On another line, unless it is the second, the
columns before and after the content are. -/
theorem isHighlighted_iff_of_line (hline : m.lines[row]? = some line) :
    isHighlighted m row column = true ↔
      line.isAllBlank = true ∧ column < line.length ∨
        row ≠ secondRow ∧ line.isAllBlank = false ∧
          (column < line.length - line.trimStart.length ∨
            line.trimEnd.length ≤ column ∧ column < line.length) := by
  constructor
  · intro h
    obtain ⟨d, hd, l, hl, rfl, hstart, hstop⟩ := isHighlighted_iff.mp h
    rcases mem_blanksFound_iff.mp hd with hd | hd | ⟨hd, hhint⟩
    · obtain ⟨row', line', hline', hrow, -, hcontent, hd⟩ := mem_checkMargins_iff.mp hd
      right
      rcases hd with hd | hd
      · obtain ⟨-, rfl⟩ := mem_leadingBlanks_iff.mp hd
        cases hl
        cases hline.symm.trans hline'
        exact ⟨hrow, hcontent, .inl hstop⟩
      · obtain ⟨-, rfl⟩ := mem_trailingBlanks_iff.mp hd
        cases hl
        cases hline.symm.trans hline'
        exact ⟨hrow, hcontent, .inr ⟨hstart, hstop⟩⟩
    · obtain ⟨row', line', hline', ⟨-, hblank⟩, rfl⟩ := mem_checkBlankLines_iff.mp hd
      cases hl
      cases hline.symm.trans hline'
      exact .inl ⟨hblank, hstop⟩
    · obtain ⟨subject, line', -, hline', -, rfl⟩ := mem_checkSecondLine_iff.mp hd
      cases hl
      cases hline.symm.trans hline'
      exact .inl ⟨hint_secondLineNotEmpty_iff.mp hhint, hstop⟩
  · rintro (⟨hblank, hcolumn⟩ | ⟨hrow, hcontent, hcolumn⟩)
    · exact isHighlighted_of_isAllBlank hline hblank hcolumn
    · exact isHighlighted_of_margin hline hrow hcontent hcolumn

/-! ## Lines without what is highlighted -/

theorem withoutColumns_of_isAllBlank (hline : m.lines[row]? = some line)
    (hblank : line.isAllBlank = true) : Text.withoutColumns (isHighlighted m row) 0 line = [] := by
  refine Text.withoutColumns_eq_nil fun column _ hcolumn => ?_
  rw [Nat.zero_add] at hcolumn
  exact (isHighlighted_iff_of_line hline).mpr (.inl ⟨hblank, hcolumn⟩)

/-- Every line but the second becomes what is left of it without the blanks around. -/
theorem withoutColumns_of_ne (hline : m.lines[row]? = some line) (hrow : row ≠ secondRow) :
    Text.withoutColumns (isHighlighted m row) 0 line = line.trim := by
  cases hblank : line.isAllBlank with
  | true => rw [withoutColumns_of_isAllBlank hline hblank, Text.trim_eq_nil hblank]
  | false =>
    by_cases hne : line = []
    · rw [hne]
      rfl
    · obtain ⟨before, after, hsplit, -, -, hbefore, hkept⟩ := Text.exists_blanks_around hne hblank
      have hends : Text.withoutColumns (isHighlighted m row) 0 (before ++ line.trim ++ after) =
          line.trim := by
        refine Text.withoutColumns_ends fun column hcolumn => ?_
        rw [← hsplit] at hcolumn
        rw [isHighlighted_iff_of_line hline, hblank, hkept, hbefore]
        simp only [Bool.false_eq_true, false_or, ne_eq, hrow, not_false_eq_true, true_and,
          hcolumn, and_true]
      rwa [← hsplit] at hends

/-- A second line with content stays as it is. -/
theorem withoutColumns_of_second (hline : m.lines[secondRow]? = some line)
    (hcontent : line.isAllBlank = false) :
    Text.withoutColumns (isHighlighted m secondRow) 0 line = line := by
  refine Text.withoutColumns_eq_self fun column _ _ => ?_
  rw [← Bool.not_eq_true, isHighlighted_iff_of_line hline, hcontent]
  simp

theorem getElem?_linesWithoutBlanks (m : Text) (row : Nat) : (linesWithoutBlanks m)[row]? =
    m.lines[row]?.map (Text.withoutColumns (isHighlighted m row) 0) := by
  rw [linesWithoutBlanks, List.getElem?_map, List.getElem?_zipIdx, Option.map_map, Nat.zero_add]
  rfl

theorem isBlank_of_isHighlighted {text : Text} {x : Char} (hline : m.lines[row]? = some text)
    (hx : text[column]? = some x) (h : isHighlighted m row column = true) :
    Text.isBlank x = true := by
  rcases (isHighlighted_iff_of_line hline).mp h with ⟨hblank, -⟩ | ⟨-, hcontent, hends⟩
  · exact (Text.isAllBlank_iff.mp hblank).2 x (List.mem_of_getElem? hx)
  · have hne : text ≠ [] := List.ne_nil_of_mem (List.mem_of_getElem? hx)
    obtain ⟨before, after, hsplit, hblanks, hblanks', hbefore, hkept⟩ :=
      Text.exists_blanks_around hne hcontent
    rw [← hbefore, hkept] at hends
    rcases hends with hleading | ⟨htrailing, -⟩
    · rw [hsplit, List.append_assoc, List.getElem?_append_left hleading] at hx
      exact hblanks x (List.mem_of_getElem? hx)
    · rw [← List.length_append] at htrailing
      rw [hsplit, List.getElem?_append_right htrailing] at hx
      exact hblanks' x (List.mem_of_getElem? hx)

/-! ## The lines joined again -/

theorem blanksFound_eq_nil
    (htrimmed : ∀ row line, m.lines[row]? = some line → row ≠ 1 → line.Trimmed)
    (hsecond : ∀ line, m.lines[secondRow]? = some line → line.isAllBlank = false) :
    blanksFound m = [] := by
  obtain ⟨hmargins, hblanks⟩ := spacing_eq_nil_iff.mpr htrimmed
  rw [List.eq_nil_iff_forall_not_mem]
  intro d hd
  rcases mem_blanksFound_iff.mp hd with hd | hd | ⟨hd, hhint⟩
  · rw [hmargins] at hd
    cases hd
  · rw [hblanks] at hd
    cases hd
  · obtain ⟨subject, line, -, hline, -, rfl⟩ := mem_checkSecondLine_iff.mp hd
    have hblank := hint_secondLineNotEmpty_iff.mp hhint
    rw [hsecond line hline] at hblank
    cases hblank

/-- Of the lines that are joined, only the second can end in a carriage return, and it has content
without it. -/
theorem blanksFound_joinLines (m : Text) :
    blanksFound (Text.joinLines (linesWithoutBlanks m)) = [] := by
  have hfeed : ∀ l ∈ linesWithoutBlanks m, '\n' ∉ l := by
    intro l hl hmem
    obtain ⟨⟨old, row⟩, hold, rfl⟩ := List.mem_map.mp hl
    exact Text.newline_not_mem_of_mem_lines (List.fst_mem_of_mem_zipIdx hold)
      (Text.withoutColumns_subset 0 old hmem)
  have hfrom : ∀ row line, (Text.joinLines (linesWithoutBlanks m)).lines[row]? = some line →
      ∃ old, m.lines[row]? = some old ∧
        (line = Text.withoutColumns (isHighlighted m row) 0 old ∨
          line = Text.dropReturn (Text.withoutColumns (isHighlighted m row) 0 old)) := by
    intro row line hline
    rw [Text.lines_joinLines_eq hfeed] at hline
    obtain ⟨l, hl, hsame⟩ := Text.getElem?_linesOfPieces hline
    rw [getElem?_linesWithoutBlanks] at hl
    obtain ⟨old, hold, rfl⟩ := Option.map_eq_some_iff.mp hl
    exact ⟨old, hold, hsame⟩
  apply blanksFound_eq_nil
  · intro row line hline hrow
    obtain ⟨old, hold, hsame⟩ := hfrom row line hline
    have htrimmed := Text.trimmed_trim old
    have hreturn : old.trim.getLast? ≠ some '\r' := by
      intro hlast
      exact absurd (htrimmed.last '\r' hlast) (by decide)
    rw [withoutColumns_of_ne hold hrow, Text.dropReturn_eq_self hreturn, or_self] at hsame
    rw [hsame]
    exact htrimmed
  · intro line hline
    obtain ⟨old, hold, hsame⟩ := hfrom secondRow line hline
    have hnot : (Text.withoutColumns (isHighlighted m secondRow) 0 old).isAllBlank = false := by
      cases hblank : old.isAllBlank with
      | true =>
        rw [withoutColumns_of_isAllBlank hold hblank]
        rfl
      | false =>
        rw [withoutColumns_of_second hold hblank]
        exact hblank
    rcases hsame with rfl | rfl
    · exact hnot
    · exact Text.isAllBlank_dropReturn hnot

/-- If the columns that diagnostics about blanks highlight are deleted, every line but the second is
left without the blanks around it, and the second is empty if it consisted of blanks and else as it
was. Nothing but blanks is deleted, and there are no such diagnostics for the lines joined again. -/
theorem deleting_highlighted_blanks_cleans (m : Text) :
    (linesWithoutBlanks m).length = m.lines.length ∧
    (∀ (row : Nat) (line : Text), m.lines[row]? = some line → row ≠ 1 →
      (linesWithoutBlanks m)[row]? = some line.trim) ∧
    (∀ line : Text, m.lines[1]? = some line →
      (linesWithoutBlanks m)[1]? = some (if line.isAllBlank then [] else line)) ∧
    (∀ row (text : Text) column x, m.lines[row]? = some text → text[column]? = some x →
      isHighlighted m row column = true → Text.isBlank x = true) ∧
    blanksFound (Text.joinLines (linesWithoutBlanks m)) = [] := by
  refine ⟨?_, ?_, ?_, ?_, blanksFound_joinLines m⟩
  · rw [linesWithoutBlanks, List.length_map, List.length_zipIdx]
  · intro row line hline hrow
    rw [getElem?_linesWithoutBlanks, hline, Option.map_some, withoutColumns_of_ne hline hrow]
  · intro line hline
    rw [getElem?_linesWithoutBlanks, hline, Option.map_some]
    split_ifs with hblank
    · rw [withoutColumns_of_isAllBlank hline hblank]
    · show some (Text.withoutColumns (isHighlighted m secondRow) 0 line) = some line
      rw [withoutColumns_of_second hline (Bool.not_eq_true _ ▸ hblank)]
  · intro row text column x hline hx h
    exact isBlank_of_isHighlighted hline hx h

/-- A message with blanks around its subject, on its second line and after a line of its body. -/
def untidy : Text := "  Fix it \n \t\nAt last.\u3000".toList

theorem deleting_highlighted_blanks_cleans_untidy :
    untidy.lines = ["  Fix it ".toList, " \t".toList, "At last.\u3000".toList] ∧
    (linesWithoutBlanks untidy)[0]? = some "Fix it".toList ∧
    (linesWithoutBlanks untidy)[1]? = some [] ∧
    (linesWithoutBlanks untidy)[2]? = some "At last.".toList ∧
    isHighlighted untidy 2 8 = true ∧ Text.isBlank '\u3000' = true := by
  have hlines : untidy.lines = ["  Fix it ".toList, " \t".toList, "At last.\u3000".toList] := by
    decide +kernel
  have hlast : isHighlighted untidy 2 8 = true := by decide +kernel
  obtain ⟨-, hother, hsecond, hblank, -⟩ := deleting_highlighted_blanks_cleans untidy
  rw [hlines] at hother hsecond hblank
  exact ⟨hlines, hother 0 _ rfl (by decide), hsecond _ rfl, hother 2 _ rfl (by decide), hlast,
    hblank 2 _ 8 _ rfl rfl hlast⟩

end Policy

end CommitGate
