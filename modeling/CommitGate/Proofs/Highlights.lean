import CommitGate.Proofs.Layout
import CommitGate.Proofs.Rules

/-!
# Where diagnostics point

Every diagnostic of a review highlights at least one character of a line of the message, so that a
report shows the line cut exactly at the columns of the highlight.
-/

namespace CommitGate

open Policy

variable {m : Text} {d : Diagnostic}

/-- A diagnostic that says which rule is violated, where in the message, and how to mend it. -/
structure Diagnostic.Placed (d : Diagnostic) (m : Text) (l : Location) (line : Text) : Prop where
  /-- The location is that of the diagnostic. -/
  location : d.location = some l
  /-- The location highlights something on the line. -/
  within : l.Within m.lines line
  /-- The violated rule has a name. -/
  code : d.code.isSome = true
  /-- There is a remark at the highlight. -/
  hint : d.hint.isSome = true
  /-- There is advice. -/
  help : d.help.isSome = true

/-! ## The diagnostics of the rules -/

/-- What a rule says of a whole line, which it does only if the line is not empty. -/
theorem Location.within_whole {lines : List Text} {row : Nat} {line : Text}
    (hrow : lines[row]? = some line) (hne : line ≠ []) :
    Location.Within ⟨row, 0, line.length⟩ lines line :=
  ⟨hrow, List.length_pos_iff.mpr hne, le_rfl⟩

theorem placed_of_mem_checkLineLength (h : d ∈ checkLineLength m) : ∃ l line, d.Placed m l line := by
  obtain ⟨row, line, hrow, hlong, rfl⟩ := mem_checkLineLength_iff.mp h
  exact ⟨_, line, rfl, ⟨hrow, hlong, le_rfl⟩, rfl, rfl, rfl⟩

theorem placed_of_mem_checkEnding (h : d ∈ checkEnding m) : ∃ l line, d.Placed m l line := by
  obtain ⟨subject, ending, hsubject, hlast, -, rfl⟩ := mem_checkEnding_iff.mp h
  have hpos : 0 < subject.length := by
    apply List.length_pos_iff.mpr
    rintro rfl
    cases hlast
  exact ⟨_, subject, rfl, ⟨hsubject, Nat.sub_lt hpos Nat.one_pos, le_rfl⟩, rfl, rfl, rfl⟩

theorem placed_of_mem_checkSecondLine (h : d ∈ checkSecondLine m) :
    ∃ l line, d.Placed m l line := by
  obtain ⟨subject, line, -, hline, hne, rfl⟩ := mem_checkSecondLine_iff.mp h
  exact ⟨_, line, rfl, Location.within_whole hline hne, rfl, rfl, rfl⟩

/-- The verdict on an empty subject is that it is as it should be. -/
theorem placed_of_mem_checkCasing (h : d ∈ checkCasing m) : ∃ l line, d.Placed m l line := by
  obtain ⟨subject, hsubject, hcase⟩ := mem_checkCasing_iff.mp h
  have hne : subject ≠ [] := by
    rintro rfl
    simp [casingOf] at hcase
  have hwhole := Location.within_whole hsubject hne
  rcases hcase with ⟨-, rfl⟩ | ⟨-, rfl⟩ | ⟨first, rest, -, rfl⟩
  · exact ⟨_, subject, rfl, hwhole, rfl, rfl, rfl⟩
  · exact ⟨_, subject, rfl, hwhole, rfl, rfl, rfl⟩
  · exact ⟨_, subject, rfl, ⟨hsubject, Nat.one_pos, hwhole.start_lt_stop⟩, rfl, rfl, rfl⟩

theorem placed_of_mem_checkMargins (h : d ∈ checkMargins m) : ∃ l line, d.Placed m l line := by
  obtain ⟨row, line, hline, -, -, -, hd⟩ := mem_checkMargins_iff.mp h
  rcases hd with hd | hd
  · obtain ⟨hlt, rfl⟩ := mem_leadingBlanks_iff.mp hd
    exact ⟨_, line, rfl, ⟨hline, Nat.sub_pos_of_lt hlt, Nat.sub_le ..⟩, rfl, rfl, rfl⟩
  · obtain ⟨hlt, rfl⟩ := mem_trailingBlanks_iff.mp hd
    exact ⟨_, line, rfl, ⟨hline, hlt, le_rfl⟩, rfl, rfl, rfl⟩

theorem placed_of_mem_checkBlankLines (h : d ∈ checkBlankLines m) : ∃ l line, d.Placed m l line := by
  obtain ⟨row, line, hline, ⟨-, hblank⟩, rfl⟩ := mem_checkBlankLines_iff.mp h
  have hne := (Text.isAllBlank_iff.mp hblank).1
  exact ⟨_, line, rfl, Location.within_whole hline hne, rfl, rfl, rfl⟩

/-- Every diagnostic of a review is placed on a line of the message. -/
theorem placed_of_mem_review (h : d ∈ review m) : ∃ l line, d.Placed m l line := by
  rcases mem_review_iff.mp h with h | h | h | h | h | h
  · exact placed_of_mem_checkLineLength h
  · exact placed_of_mem_checkEnding h
  · exact placed_of_mem_checkSecondLine h
  · exact placed_of_mem_checkCasing h
  · exact placed_of_mem_checkMargins h
  · exact placed_of_mem_checkBlankLines h

/-! ## Diagnostics in reports -/

/-- Every diagnostic of a review has a code, a hint and a help, and highlights something on a line
of the message. A report shows the line cut at the columns of the highlight, none of which it has to
move, and the carets stand under exactly the characters that are highlighted. -/
theorem highlight_of_mem_review (commit : Option Text) {m : Text} {d : Diagnostic}
    (h : d ∈ review m) :
    ∃ l line before inside after,
      (d.location = some l ∧ d.code.isSome = true ∧ d.hint.isSome = true ∧ d.help.isSome = true) ∧
      (l.line < m.lines.length ∧ m.lines[l.line]? = some line ∧ l.start < l.stop ∧
        l.stop ≤ line.length) ∧
      (before ++ inside ++ after = line ∧ before.length = l.start ∧
        inside.length = l.stop - l.start ∧ after.length = line.length - l.stop) ∧
      (l.firstColumn m.lines = l.start ∧ l.endColumn m.lines = l.stop) ∧
      ∀ color t, (Report.mk commit m (review m)).text color = .ok t →
        paint color [.styled [.bold, .cyan] (rowLabel l.line), .plain before,
          .styled [.bold, .red] inside, .plain after, newline] <:+: t := by
  obtain ⟨l, line, hplaced⟩ := placed_of_mem_review h
  have hwithin := hplaced.within
  refine ⟨l, line, (splitColumns line l.start l.stop).1, (splitColumns line l.start l.stop).2.1,
    (splitColumns line l.start l.stop).2.2,
    ⟨hplaced.location, hplaced.code, hplaced.hint, hplaced.help⟩,
    ⟨(List.getElem?_eq_some_iff.mp hwithin.row).1, hwithin.row, hwithin.start_lt_stop,
      hwithin.stop_le⟩,
    ⟨append_splitColumns hwithin.start_lt_stop.le, hwithin.length_before, hwithin.length_inside,
      hwithin.length_after⟩,
    ⟨hwithin.firstColumn_eq, hwithin.endColumn_eq⟩, ?_⟩
  intro color t ht
  have hshown := Report.paint_sourcePieces_isInfix_text h hplaced.location ht
  rw [sourcePieces, hwithin.lineIn_eq] at hshown
  exact hshown

/-- The blank after a word with two-byte characters is highlighted at its columns, not its bytes. -/
theorem highlight_trailing_nandu :
    ∃ l, (untrimmed 2 5 6 "trailing whitespace".toList
        "Remove this trailing whitespace".toList).location = some l ∧
      l.firstColumn ["Añade".toList, [], "ñandú ".toList] = 5 ∧
      l.endColumn ["Añade".toList, [], "ñandú ".toList] = 6 := by
  have hmem : untrimmed 2 5 6 "trailing whitespace".toList
      "Remove this trailing whitespace".toList ∈ review "Añade\n\nñandú ".toList := by
    decide +kernel
  have hlines : Text.lines "Añade\n\nñandú ".toList = ["Añade".toList, [], "ñandú ".toList] := by
    decide +kernel
  obtain ⟨l, line, before, inside, after, ⟨hl, -⟩, -, -, ⟨hfirst, hend⟩, -⟩ :=
    highlight_of_mem_review none hmem
  cases hl
  rw [hlines] at hfirst hend
  exact ⟨_, rfl, hfirst, hend⟩

end CommitGate
