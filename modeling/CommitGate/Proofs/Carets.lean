import CommitGate.Proofs.Formats

/-!
# Carets

A report without colours is a sequence of rows, and the rows of a diagnostic follow each other in
it: the source row, which is the label of the line and the line itself, and just below it the row of
the carets. The carets start as far from the margin as the highlight starts on the line. A label is
aligned in the margin, so that the carets stand under the highlighted characters as long as the
label fits there, and it no longer does from line 100000 on.
-/

namespace CommitGate

open Policy

namespace Text

/-! ## The rows of a text -/

/-- The rows of a text, each of which a line feed ends. -/
def rows (t : Text) : List Text := (t.splitOn '\n').dropLast

/-- A text that is made of whole rows. -/
def Ended (t : Text) : Prop := t = [] ∨ ∃ s, t = line s

variable {s t : Text}

theorem ended_nil : Ended [] := .inl rfl

theorem Ended.append (hs : s.Ended) (ht : t.Ended) : Ended (s ++ t) := by
  rcases ht with rfl | ⟨t', rfl⟩
  · rwa [List.append_nil]
  · exact .inr ⟨s ++ t', (List.append_assoc ..).symm⟩

theorem Ended.flatMap {α : Type} {f : α → Text} {xs : List α} (h : ∀ x ∈ xs, Ended (f x)) :
    Ended (xs.flatMap f) := by
  induction xs with
  | nil => exact ended_nil
  | cons x xs ih =>
    rw [List.flatMap_cons]
    exact (h x List.mem_cons_self).append (ih fun y hy => h y (List.mem_cons_of_mem x hy))

theorem rows_line_append (h : '\n' ∉ s) (t : Text) : rows (line s ++ t) = s :: rows t := by
  have hne : t.splitOn '\n' ≠ [] := List.splitOn_ne_nil '\n' t
  rw [rows, line, List.append_assoc, List.singleton_append,
    List.splitOn_append_cons_self_of_not_mem h, List.dropLast_cons_of_ne_nil hne, rows]

/-- The rows of two texts follow each other if the first is made of whole rows. -/
theorem rows_append (h : s.Ended) (t : Text) : rows (s ++ t) = rows s ++ rows t := by
  rcases h with rfl | ⟨s, rfl⟩
  · rfl
  · have hne : t.splitOn '\n' ≠ [] := List.splitOn_ne_nil '\n' t
    have hline : rows (line s) = s.splitOn '\n' := by
      rw [rows, line, List.splitOn_append_cons_self, List.splitOn_nil, List.dropLast_concat]
    rw [hline, rows, line, List.append_assoc, List.singleton_append,
      List.splitOn_append_cons_self, List.dropLast_append_of_ne_nil hne, rows]

theorem rows_flatMap {α : Type} {f : α → Text} {xs : List α} (h : ∀ x ∈ xs, Ended (f x)) :
    rows (xs.flatMap f) = xs.flatMap fun x => rows (f x) := by
  induction xs with
  | nil => rfl
  | cons x xs ih =>
    rw [List.flatMap_cons, List.flatMap_cons, rows_append (h x List.mem_cons_self),
      ih fun y hy => h y (List.mem_cons_of_mem x hy)]

end Text

/-! ## The rows of a report -/

theorem ended_paint_concat_newline (color : Bool) (ps : List Piece) :
    Text.Ended (paint color (ps ++ [newline])) := by
  rw [paint_append]
  exact .inr ⟨paint color ps, rfl⟩

/-- What is shown of a diagnostic ends with a line feed, if anything is shown. -/
theorem ended_paint_pieces (color : Bool) (lines : List Text) (d : Diagnostic) :
    Text.Ended (paint color (d.pieces lines)) := by
  unfold Diagnostic.pieces
  rw [paint_append, paint_append]
  refine .append (.append ?_ ?_) ?_
  · cases d.location with
    | none => exact Text.ended_nil
    | some l => exact ended_paint_concat_newline ..
  · cases d.help with
    | none => exact Text.ended_nil
    | some h =>
      have hend : [Piece.styled [.bold, .green] "Help:".toList, .plain [' ']] ++ h.pieces ++
          [newline, newline] = [Piece.styled [.bold, .green] "Help:".toList, .plain [' ']] ++
          h.pieces ++ [newline] ++ [newline] := by simp
      dsimp only
      rw [hend]
      exact ended_paint_concat_newline ..
  · cases d.note with
    | none => exact Text.ended_nil
    | some n => exact ended_paint_concat_newline color [_, _]

theorem ended_paint_groupPieces (color : Bool) (lines : List Text) (ds : List Diagnostic) :
    Text.Ended (paint color (groupPieces lines ds)) := by
  cases ds with
  | nil => exact Text.ended_nil
  | cons d ds => exact ended_paint_concat_newline ..

/-- The rows that show a diagnostic without colours. -/
def Diagnostic.rows (lines : List Text) (d : Diagnostic) : List Text :=
  Text.rows (paint false (d.pieces lines))

theorem rows_isInfix_rows_groupPieces {lines : List Text} {ds : List Diagnostic} {d : Diagnostic}
    (h : d ∈ ds) : d.rows lines <:+: Text.rows (paint false (groupPieces lines ds)) := by
  cases ds with
  | nil => cases h
  | cons d' ds =>
    have hheader : Text.Ended (paint false
        [.styled [.bold, .red] d'.groupKey.header, newline, newline]) :=
      ended_paint_concat_newline false [_, _]
    have hflat : Text.Ended ((d' :: ds).flatMap fun d => paint false (d.pieces lines)) :=
      .flatMap fun d _ => ended_paint_pieces false lines d
    unfold groupPieces
    rw [paint_append, paint_append, paint_flatMap, List.append_assoc, Text.rows_append hheader,
      Text.rows_append hflat, Text.rows_flatMap fun d _ => ended_paint_pieces false lines d]
    have hmem : d.rows lines <:+: (d' :: ds).flatMap (Diagnostic.rows lines) :=
      List.infix_of_mem_flatten (List.mem_map_of_mem h)
    exact List.infix_append_of_infix_right (List.infix_append_of_infix_left hmem)

/-- The rows of a diagnostic follow each other in the report. -/
theorem Report.rows_isInfix_rows_text {r : Report} {d : Diagnostic} {t : Text}
    (hd : d ∈ r.diagnostics) (ht : r.text false = .ok t) :
    d.rows r.message.lines <:+: t.rows := by
  unfold text at ht
  split_ifs at ht with hfits
  cases ht
  obtain ⟨g, hg, hdg⟩ := exists_mem_groupDiagnostics hd
  have hended : ∀ g ∈ groupDiagnostics r.diagnostics,
      Text.Ended (paint false (groupPieces r.message.lines g)) :=
    fun g _ => ended_paint_groupPieces false r.message.lines g
  unfold pieces
  rw [paint_append, paint_flatMap, Text.rows_append (.flatMap hended), Text.rows_flatMap hended]
  refine List.infix_append_of_infix_left ((rows_isInfix_rows_groupPieces hdg).trans ?_)
  exact List.infix_of_mem_flatten (List.mem_map_of_mem hg)

/-! ## The source row and the row below -/

/-- There are carets in a row just under the columns from `first` up to `stop`, and blanks before
them. -/
structure CaretsUnder (row : Text) (first stop : Nat) : Prop where
  caret_iff : ∀ column, row[column]? = some '^' ↔ first ≤ column ∧ column < stop
  blank : ∀ column < first, row[column]? = some ' '

/-- The label of a line is as wide as the margin just if the number of the line has at most five
digits. -/
theorem length_rowLabel_eq_marginWidth_iff (row : Nat) :
    (rowLabel row).length = marginWidth ↔ row + 1 < 100000 := by
  have hdigits : (Text.ofNat (row + 1)).length ≤ 5 ↔ row + 1 < 10 ^ 5 :=
    Nat.length_toDigits_le_iff (by decide) (by decide)
  have hlength : (rowLabel row).length = max 8 ((Text.ofNat (row + 1)).length + 3) := by
    simp [rowLabel, Text.alignRight, Text.spaces, marginWidth]
    omega
  rw [hlength, marginWidth]
  omega

theorem newline_not_mem_rowLabel (row : Nat) : '\n' ∉ rowLabel row := by
  have hdigits : '\n' ∉ Text.ofNat (row + 1) := fun hmem => by
    have hdigit : Char.isDigit '\n' = true := Nat.isDigit_of_mem_toDigits (by decide) (by decide) hmem
    exact absurd hdigit (by decide)
  simp [rowLabel, Text.alignRight, Text.spaces, hdigits]

theorem getElem?_spaces_append_carets (n width column : Nat) :
    (Text.spaces n ++ List.replicate width '^')[column]? =
      if column < n then some ' ' else if column < n + width then some '^' else none := by
  have hlength : (Text.spaces n).length = n := List.length_replicate
  by_cases hspace : column < n
  · rw [List.getElem?_append_left (by omega), if_pos hspace]
    exact List.getElem?_replicate_of_lt hspace
  · rw [List.getElem?_append_right (by omega), hlength, List.getElem?_replicate, if_neg hspace]
    by_cases hcaret : column < n + width
    · rw [if_pos (by omega), if_pos hcaret]
    · rw [if_neg (by omega), if_neg hcaret]

/-- The carets of a row that is made of blanks and then carets stand under the columns from the
first caret on, and under no others. -/
theorem caretsUnder_iff {n width : Nat} (hwidth : 0 < width) (first stop : Nat) :
    CaretsUnder (Text.spaces n ++ List.replicate width '^') first stop ↔
      first = n ∧ stop = n + width := by
  have hat := getElem?_spaces_append_carets n width
  constructor
  · intro h
    -- the first and the last caret and the columns next to them determine both bounds
    have hfirst := (h.caret_iff n).mp (by rw [hat, if_neg (by omega), if_pos (by omega)])
    have hlast := (h.caret_iff (n + width - 1)).mp
      (by rw [hat, if_neg (by omega), if_pos (by omega)])
    have hpast : ¬ (first ≤ n + width ∧ n + width < stop) := by
      rw [← h.caret_iff, hat, if_neg (by omega), if_neg (by omega)]
      exact Option.some_ne_none '^' ∘ Eq.symm
    have hbefore : ¬ first < n := by
      intro hlt
      have hcaret := (h.caret_iff first).mpr (by omega)
      rw [hat, if_pos hlt] at hcaret
      exact absurd hcaret (by decide)
    omega
  · rintro ⟨rfl, rfl⟩
    constructor
    · intro column
      rw [hat]
      split_ifs with hspace hcaret
      · simp only [Option.some.injEq, Char.reduceEq, false_iff]
        omega
      · simp only [true_iff]
        omega
      · simp only [false_iff]
        omega
    · intro column hlt
      rw [hat, if_pos hlt]

/-- The rows before the source row: none, the line before it, or an ellipsis and that line. -/
theorem exists_rows_contextPieces {lines : List Text} {row : Nat} (hrow : row < lines.length)
    (hfeed : ∀ line ∈ lines, '\n' ∉ line) :
    ∃ above : List Text, above.length = min row 2 ∧
      ∀ t, Text.rows (paint false (contextPieces lines row) ++ t) = above ++ t.rows := by
  have hmargin : ∀ {line : Text}, '\n' ∉ line → '\n' ∉ margin ++ line := by
    intro line hline
    simp [margin, Text.spaces, hline]
  -- there is no line before the first, and nothing to leave out before the second
  cases row with
  | zero => exact ⟨[], rfl, fun t => rfl⟩
  | succ previous =>
    have hprevious : previous < lines.length := by omega
    have hline : '\n' ∉ margin ++ lines[previous] := hmargin (hfeed _ (List.getElem_mem hprevious))
    have hshown : paint false [.plain margin, .styled [.dim] lines[previous], newline] =
        Text.line (margin ++ lines[previous]) := by
      simp [Piece.paint, newline, Text.line]
    have hget : lines[previous]? = some lines[previous] := List.getElem?_eq_getElem hprevious
    cases previous with
    | zero =>
      refine ⟨[margin ++ lines[0]], rfl, fun t => ?_⟩
      have hpieces : contextPieces lines 1 =
          [.plain margin, .styled [.dim] lines[0], newline] := by
        simp [contextPieces, hget]
      rw [hpieces, hshown, Text.rows_line_append hline]
      rfl
    | succ previous =>
      refine ⟨[margin ++ "...".toList, margin ++ lines[previous + 1]], ?_, fun t => ?_⟩
      · show 2 = min (previous + 1 + 1) 2
        omega
      have hpieces : contextPieces lines (previous + 1 + 1) =
          [.plain margin, .styled [.dim] "...".toList, newline] ++
            [.plain margin, .styled [.dim] lines[previous + 1], newline] := by
        simp [contextPieces, hget]
      have hdots : paint false [.plain margin, .styled [.dim] "...".toList, newline] =
          Text.line (margin ++ "...".toList) := rfl
      rw [hpieces, paint_append, hdots, hshown, List.append_assoc,
        Text.rows_line_append (hmargin (by decide)), Text.rows_line_append hline]
      rfl

/-- After the context, a diagnostic shows its source row and then the row of its carets. -/
theorem exists_rows_eq {lines : List Text} {d : Diagnostic} {l : Location} {line : Text}
    (hl : d.location = some l) (hwithin : l.Within lines line)
    (hfeed : ∀ line ∈ lines, '\n' ∉ line) :
    ∃ above rest : List Text, above.length = min l.line 2 ∧
      d.rows lines = above ++ (rowLabel l.line ++ line) ::
        (Text.spaces (marginWidth + l.start) ++ List.replicate (l.stop - l.start) '^') :: rest := by
  obtain ⟨hrow, hget⟩ := List.getElem?_eq_some_iff.mp hwithin.row
  obtain ⟨above, hlength, habove⟩ := exists_rows_contextPieces hrow hfeed
  have hsource : paint false (sourcePieces lines l) = Text.line (rowLabel l.line ++ line) := by
    have hcut := @append_splitColumns line _ _ hwithin.start_lt_stop.le
    rw [sourcePieces, hwithin.lineIn_eq]
    generalize splitColumns line l.start l.stop = parts at hcut ⊢
    rw [← hcut]
    simp [Piece.paint, newline, Text.line]
  have hcarets : paint false (caretPieces lines l) = Text.line
      (Text.spaces (marginWidth + l.start) ++ List.replicate (l.stop - l.start) '^') := by
    rw [caretPieces, hwithin.firstColumn_eq, hwithin.endColumn_eq]
    have hspaces : Text.spaces (marginWidth + l.start) = margin ++ Text.spaces l.start :=
      List.replicate_add ..
    rw [hspaces]
    simp [Piece.paint, newline, Text.line]
  have hline : '\n' ∉ rowLabel l.line ++ line := by
    have hmem := hfeed line (List.mem_of_getElem? hwithin.row)
    simp [newline_not_mem_rowLabel, hmem]
  have hspaces : '\n' ∉
      Text.spaces (marginWidth + l.start) ++ List.replicate (l.stop - l.start) '^' := by
    simp [Text.spaces]
  obtain ⟨after, hafter⟩ : ∃ after, d.pieces lines = contextPieces lines l.line ++
      (sourcePieces lines l ++ (caretPieces lines l ++ after)) := by
    unfold Diagnostic.pieces locationPieces
    rw [hl]
    simp only [List.append_assoc]
    exact ⟨_, rfl⟩
  refine ⟨above, Text.rows (paint false after), hlength, ?_⟩
  rw [Diagnostic.rows, hafter, paint_append, paint_append, paint_append, habove, hsource, hcarets,
    Text.rows_line_append hline, Text.rows_line_append hspaces]

theorem exists_text_review (color : Bool) (commit : Option Text) {m : Text} (h : HasRoom m) :
    ∃ t, (Report.mk commit m (review m)).text color = .ok t :=
  ⟨_, if_pos ((fits_review_iff commit m).mpr h)⟩

/-- In a report without colours, the rows of a diagnostic follow each other, and after at most two
rows of context come the label with the line that is pointed at and then the row of the carets. The
carets are as far from the margin as the highlight is from the start of the line. They stand under
exactly the highlighted characters, with blanks before them, if the number of the line is less than
100000, and elsewhere otherwise. -/
theorem carets_under_highlight_iff (commit : Option Text) {m t : Text} {d : Diagnostic}
    (hd : d ∈ review m) (ht : (Report.mk commit m (review m)).text false = .ok t) :
    ∃ l line source carets rest,
      (d.location = some l ∧ m.lines[l.line]? = some line ∧ l.start < l.stop ∧
        l.stop ≤ line.length) ∧
      (d.rows m.lines <:+: t.rows ∧
        (d.rows m.lines).drop (min l.line 2) = source :: carets :: rest ∧
        source = rowLabel l.line ++ line) ∧
      CaretsUnder carets (marginWidth + l.start) (marginWidth + l.stop) ∧
      (CaretsUnder carets ((rowLabel l.line).length + l.start)
        ((rowLabel l.line).length + l.stop) ↔ l.line + 1 < 100000) := by
  obtain ⟨l, line, hplaced⟩ := placed_of_mem_review hd
  have hwithin := hplaced.within
  have hwidth : 0 < l.stop - l.start := Nat.sub_pos_of_lt hwithin.start_lt_stop
  obtain ⟨above, rest, hlength, hrows⟩ :=
    exists_rows_eq hplaced.location hwithin fun _ => Text.newline_not_mem_of_mem_lines
  have hshown : d.rows m.lines <:+: t.rows :=
    @Report.rows_isInfix_rows_text (Report.mk commit m (review m)) d t hd ht
  refine ⟨l, line, rowLabel l.line ++ line,
    Text.spaces (marginWidth + l.start) ++ List.replicate (l.stop - l.start) '^', rest,
    ⟨hplaced.location, hwithin.row, hwithin.start_lt_stop, hwithin.stop_le⟩,
    ⟨hshown, ?_, rfl⟩, ?_, ?_⟩
  · rw [hrows, ← hlength, List.drop_left]
  · rw [caretsUnder_iff hwidth]
    have := hwithin.start_lt_stop
    omega
  · have hlabel := length_rowLabel_eq_marginWidth_iff l.line
    rw [caretsUnder_iff hwidth]
    have := hwithin.start_lt_stop
    omega

/-- The blank at the end of the third line is the tenth character of its row, and has its caret
below it. -/
theorem carets_under_third_line :
    ∃ t source carets rest,
      (Report.mk none "Add a table\n\nx ".toList (review "Add a table\n\nx ".toList)).text false =
        .ok t ∧
      (source :: carets :: rest) <:+: t.rows ∧ source = "    L3: x ".toList ∧
      CaretsUnder carets 9 10 := by
  have hmem : untrimmed 2 1 2 "trailing whitespace".toList
      "Remove this trailing whitespace".toList ∈ review "Add a table\n\nx ".toList := by
    decide +kernel
  obtain ⟨t, ht⟩ := exists_text_review false none
    (by decide +kernel : HasRoom "Add a table\n\nx ".toList)
  have hlines : Text.lines "Add a table\n\nx ".toList = ["Add a table".toList, [], "x ".toList] := by
    decide +kernel
  have hlabel : rowLabel 2 = "    L3: ".toList := by decide +kernel
  obtain ⟨l, line, source, carets, rest, ⟨hl, hline, -⟩, ⟨hrows, hdrop, hsource⟩, -, hunder⟩ :=
    carets_under_highlight_iff none hmem ht
  cases hl
  rw [hlines] at hline
  cases hline
  refine ⟨t, source, carets, rest, ht, ?_, ?_, ?_⟩
  · rw [← hdrop]
    exact (List.drop_suffix ..).isInfix.trans hrows
  · rw [hsource, hlabel]
    rfl
  · rw [hlabel] at hunder
    exact hunder.mpr (by decide)

/-! ## A label that is wider than the margin -/

/-- A message with so many empty lines between its subject and a last line that ends in a blank. -/
def farBlank (n : Nat) : Text := Text.line "Add a table".toList ++ List.replicate n '\n' ++ "x ".toList

theorem lines_farBlank (n : Nat) :
    (farBlank n).lines = "Add a table".toList :: (List.replicate n [] ++ ["x ".toList]) := by
  have hbody : ∀ n, Text.lines (List.replicate n '\n' ++ "x ".toList) =
      List.replicate n [] ++ ["x ".toList] := by
    intro n
    induction n with
    | zero => decide
    | succ n ih =>
      rw [List.replicate_succ, List.replicate_succ, List.cons_append, List.cons_append, ← ih]
      exact Text.lines_append_newline List.not_mem_nil _
  rw [← hbody, farBlank, Text.line, List.append_assoc, List.append_assoc]
  exact Text.lines_append_newline (by decide) _

theorem getElem?_lines_farBlank (n : Nat) : (farBlank n).lines[n + 1]? = some "x ".toList := by
  rw [lines_farBlank, List.getElem?_cons_succ, List.getElem?_append_right (by simp)]
  simp

theorem hasRoom_farBlank (n : Nat) : HasRoom (farBlank n) := by
  intro line hline
  rw [lines_farBlank] at hline
  rcases List.mem_cons.mp hline with rfl | hbody
  · decide
  · rcases List.mem_append.mp hbody with hempty | hlast
    · rw [List.eq_of_mem_replicate hempty]
      exact Nat.zero_le _
    · rw [List.mem_singleton.mp hlast]
      decide

theorem mem_review_farBlank {n : Nat} (h : 0 < n) :
    untrimmed (n + 1) 1 2 "trailing whitespace".toList "Remove this trailing whitespace".toList ∈
      review (farBlank n) := by
  have htrailing : untrimmed (n + 1) 1 2 "trailing whitespace".toList
      "Remove this trailing whitespace".toList ∈ trailingBlanks (n + 1) "x ".toList :=
    mem_trailingBlanks_iff.mpr ⟨by decide, rfl⟩
  have hmargins := mem_checkMargins_iff.mpr ⟨n + 1, "x ".toList, getElem?_lines_farBlank n,
    by unfold secondRow; omega, by decide, by decide, .inr htrailing⟩
  exact mem_review_iff.mpr (.inr (.inr (.inr (.inr (.inl hmargins)))))

/-- On line 100000 the label is one column wider than the margin, and the caret does not stand under
the blank. -/
theorem not_caretsUnder_line_100000 :
    ∃ d ∈ review (farBlank 99998), ∃ t l line,
      (Report.mk none (farBlank 99998) (review (farBlank 99998))).text false = .ok t ∧
      d.location = some l ∧ (farBlank 99998).lines[l.line]? = some line ∧
      ∀ carets rest, (d.rows (farBlank 99998).lines).drop (min l.line 2) =
          (rowLabel l.line ++ line) :: carets :: rest →
        ¬ CaretsUnder carets ((rowLabel l.line).length + l.start)
          ((rowLabel l.line).length + l.stop) := by
  have hmem := mem_review_farBlank (n := 99998) (by decide)
  obtain ⟨t, ht⟩ := exists_text_review false none (hasRoom_farBlank 99998)
  have hline := getElem?_lines_farBlank 99998
  refine ⟨_, hmem, t, ⟨99999, 1, 2⟩, "x ".toList, ht, rfl, hline, ?_⟩
  intro carets rest hdrop hunder
  have hwithin : Location.Within ⟨99999, 1, 2⟩ (farBlank 99998).lines "x ".toList :=
    ⟨hline, Nat.one_lt_two, le_rfl⟩
  obtain ⟨above, rest', hlength, hrows⟩ := exists_rows_eq (d := untrimmed 99999 1 2
    "trailing whitespace".toList "Remove this trailing whitespace".toList) rfl hwithin
    fun _ => Text.newline_not_mem_of_mem_lines
  rw [hrows, ← hlength, List.drop_left] at hdrop
  obtain ⟨-, hcarets⟩ := List.cons.inj hdrop
  rw [← (List.cons.inj hcarets).1, caretsUnder_iff (by decide)] at hunder
  have hstart : (rowLabel 99999).length + 1 = marginWidth + 1 := hunder.1
  have hfits := (length_rowLabel_eq_marginWidth_iff 99999).mp (by omega)
  exact absurd hfits (Nat.lt_irrefl 100000)

end CommitGate
