import CommitGate.Proofs.Documents
import CommitGate.Proofs.Plain

/-!
# The text of a help

A help is written part by part, with a blank line before every part but the first. A text without
colours shows it so behind its label, and a document has the same text as the value of its field. A
suggestion stands there as a block with a gutter before every line. Taking the gutter away gives
back its lines, unless one that another line follows ends with a carriage return.
-/

namespace CommitGate

/-! ## Writing part by part -/

/-- What is shown of a part. -/
def HelpPart.shown : HelpPart → Text
  | .prose t => t
  | .suggestion t => suggestionBlock t

/-- Writes a part behind the text so far. Unless the part is the first, a blank line comes before
it. -/
def HelpPart.writeTo (text : Text) (part : HelpPart × Nat) : Text :=
  (if 0 < part.2 then text ++ "\n\n".toList else text) ++ part.1.shown

/-- The text of a help, written part by part. -/
def Help.written (h : Help) : Text := h.parts.zipIdx.foldl HelpPart.writeTo []

theorem Help.written_concat (parts : List HelpPart) (part : HelpPart) :
    written ⟨parts ++ [part]⟩ =
      (if parts = [] then [] else written ⟨parts⟩ ++ "\n\n".toList) ++ part.shown := by
  have hstep : written ⟨parts ++ [part]⟩ =
      HelpPart.writeTo (written ⟨parts⟩) (part, parts.length) := by
    unfold written
    rw [List.zipIdx_append, List.foldl_append, Nat.zero_add, List.zipIdx_singleton,
      List.foldl_cons, List.foldl_nil]
  rw [hstep, HelpPart.writeTo]
  by_cases hparts : parts = []
  · subst hparts
    rfl
  · rw [if_pos (List.length_pos_iff.mpr hparts), if_neg hparts]

theorem Help.plain_eq (h : Help) :
    h.plain = "\n\n".toList.intercalate (h.parts.map HelpPart.shown) := rfl

/-- Writing part by part gives the parts with a blank line between neighbours. -/
theorem Help.written_eq_plain (h : Help) : h.written = h.plain := by
  obtain ⟨parts⟩ := h
  rw [plain_eq]
  induction parts using List.reverseRecOn with
  | nil => rfl
  | append_singleton parts part ih =>
    rw [written_concat, ih, List.map_append, List.map_singleton, Text.intercalate_concat]
    simp only [List.map_eq_nil_iff]

/-- Every part is shown somewhere in the text. -/
theorem Help.shown_isInfix_written {h : Help} {part : HelpPart} (hpart : part ∈ h.parts) :
    part.shown <:+: h.written := by
  obtain ⟨parts⟩ := h
  induction parts using List.reverseRecOn with
  | nil => cases hpart
  | append_singleton parts last ih =>
    rw [written_concat]
    rcases List.mem_append.mp hpart with hearlier | hlast
    · have hne : parts ≠ [] := List.ne_nil_of_mem hearlier
      rw [if_neg hne, List.append_assoc]
      exact List.infix_append_of_infix_left (ih hearlier)
    · rw [List.mem_singleton.mp hlast]
      exact (List.suffix_append _ _).isInfix

/-! ## The gutter of a suggestion -/

/-- What stands before each line of a suggestion. -/
def gutter : Text := "      | ".toList

theorem length_gutter : gutter.length = marginWidth := rfl

theorem newline_not_mem_gutter : '\n' ∉ gutter := by decide

theorem suggestionBlock_eq (t : Text) :
    suggestionBlock t = Text.joinLines (t.lines.map (gutter ++ ·)) := rfl

/-- A line behind the gutter loses the carriage return that it would lose by itself. -/
theorem dropReturn_gutter_append (l : Text) :
    Text.dropReturn (gutter ++ l) = gutter ++ Text.dropReturn l := by
  rcases List.eq_nil_or_concat' l with rfl | ⟨init, c, rfl⟩
  · decide
  · unfold Text.dropReturn
    rw [← List.append_assoc, List.getLast?_concat, List.getLast?_concat, List.dropLast_concat,
      List.dropLast_concat]
    split_ifs
    · rfl
    · exact List.append_assoc ..

/-- The lines of a block stand behind the gutter. They are those of the suggestion just if no line
that another one follows ends with a carriage return, which the line feed after it would take. -/
theorem exists_lines_suggestionBlock (t : Text) : ∃ ls : List Text,
    (suggestionBlock t).lines = ls.map (gutter ++ ·) ∧
      (ls = t.lines ↔ ∀ l ∈ t.lines.dropLast, l.getLast? ≠ some '\r') := by
  -- in the block a line feed stands after every line but the last
  rcases List.eq_nil_or_concat' t.lines with hnil | ⟨init, last, h⟩
  · refine ⟨[], ?_, by simp [hnil]⟩
    rw [suggestionBlock_eq, hnil]
    rfl
  · refine ⟨init.map Text.dropReturn ++ [last], ?_, ?_⟩
    · have hfeed : ∀ l ∈ init.map (gutter ++ ·) ++ [gutter ++ last], '\n' ∉ l := by
        intro l hl
        rw [← List.map_singleton, ← List.map_append, ← h] at hl
        obtain ⟨line, hline, rfl⟩ := List.mem_map.mp hl
        simp only [List.mem_append, not_or]
        exact ⟨newline_not_mem_gutter, Text.newline_not_mem_of_mem_lines hline⟩
      have hlast : gutter ++ last ≠ [] := List.append_ne_nil_of_left_ne_nil (by decide) last
      rw [suggestionBlock_eq, h, List.map_append, List.map_singleton,
        Text.lines_joinLines_concat hfeed hlast, List.map_append, List.map_map, List.map_map,
        List.map_singleton]
      congr 1
      exact List.map_congr_left fun l _ => dropReturn_gutter_append l
    · rw [h, List.dropLast_concat, List.append_cancel_right_eq]
      exact Text.map_dropReturn_eq_self_iff

/-- Taking the gutter away gives back the lines of a suggestion just if no line that another one
follows ends with a carriage return. -/
theorem map_drop_lines_suggestionBlock_iff {t : Text} :
    (suggestionBlock t).lines.map (List.drop marginWidth) = t.lines ↔
      ∀ l ∈ t.lines.dropLast, l.getLast? ≠ some '\r' := by
  obtain ⟨ls, hlines, hkept⟩ := exists_lines_suggestionBlock t
  have hdrop : (ls.map (gutter ++ ·)).map (List.drop marginWidth) = ls := by
    rw [List.map_map, ← length_gutter]
    exact (List.map_congr_left fun l _ => List.drop_left).trans (List.map_id ls)
  rw [hlines, hdrop, hkept]

/-! ## Both formats -/

/-- Without colours a diagnostic shows the text of its help behind the label, between its place in
the message and its note. -/
theorem Diagnostic.paint_pieces_of_help {d : Diagnostic} {h : Help} (hh : d.help = some h)
    (lines : List Text) : paint false (d.pieces lines) =
      paint false (Diagnostic.pieces lines { d with help := none, note := none }) ++
        ("Help: ".toList ++ h.written ++ "\n\n".toList) ++
        paint false (Diagnostic.pieces lines { d with location := none, help := none }) := by
  unfold Diagnostic.pieces
  rw [hh, h.written_eq_plain, ← h.paint_pieces]
  simp [paint_append, newline]

/-- The text of a help is the same in both formats: the value of the field in a document, and what
a text without colours shows between the label and a blank line. The block of every suggestion is
part of it, with eight columns of gutter before every line. Taking them away gives back the lines of
the suggestion if none of these ends with a carriage return. -/
theorem help_text_same_in_both_formats (h : Help) :
    (∀ (r : Report) (d : Diagnostic), d ∈ r.diagnostics → d.help = some h →
      (∃ fields, d.json = .object fields ∧
        fields.lookup "help".toList = some (.string h.written)) ∧
      paint false (d.pieces r.message.lines) =
        paint false (Diagnostic.pieces r.message.lines { d with help := none, note := none }) ++
          ("Help: ".toList ++ h.written ++ "\n\n".toList) ++
          paint false
            (Diagnostic.pieces r.message.lines { d with location := none, help := none }) ∧
      ∀ t, r.text false = .ok t → paint false (d.pieces r.message.lines) <:+: t) ∧
    ∀ t, .suggestion t ∈ h.parts →
      suggestionBlock t <:+: h.written ∧
      (∀ l ∈ (suggestionBlock t).lines, "      | ".toList <+: l) ∧
      ((∀ l ∈ t.lines, l.getLast? ≠ some '\r') →
        (suggestionBlock t).lines.map (List.drop 8) = t.lines) := by
  constructor
  · intro r d hd hh
    refine ⟨?_, d.paint_pieces_of_help hh r.message.lines, ?_⟩
    · obtain ⟨fields, hjson, hfields⟩ := d.json_writtenAs
      refine ⟨fields, hjson, ?_⟩
      rw [hfields.help, hh, h.written_eq_plain, Option.map_some]
    · intro t ht
      exact Report.paint_isInfix_text (Report.diagnosticPieces_isInfix_pieces hd) ht
  · intro t ht
    refine ⟨Help.shown_isInfix_written ht, ?_, ?_⟩
    · obtain ⟨ls, hlines, -⟩ := exists_lines_suggestionBlock t
      intro l hl
      rw [hlines] at hl
      obtain ⟨line, -, rfl⟩ := List.mem_map.mp hl
      exact List.prefix_append gutter line
    · intro hreturn
      refine map_drop_lines_suggestionBlock_iff.mpr ?_
      intro l hl
      exact hreturn l (List.mem_of_mem_dropLast hl)

/-- A help with a suggestion of three lines, the second of which is empty. -/
theorem help_text_same_empty_line :
    ∃ t, Report.text false
        { message := [], diagnostics := [{
            description := "Bad message".toList
            help := some
              ((Help.ofProse "Try:".toList).addSuggestion "Fix bug\n\nBody".toList) }] } = .ok t ∧
      "Help: Try:\n\n      | Fix bug\n      | \n      | Body\n\n".toList <:+: t ∧
      (suggestionBlock "Fix bug\n\nBody".toList).lines.map (List.drop 8) =
        ["Fix bug".toList, [], "Body".toList] := by
  obtain ⟨hshown, hblock⟩ := help_text_same_in_both_formats
    ((Help.ofProse "Try:".toList).addSuggestion "Fix bug\n\nBody".toList)
  obtain ⟨-, hpieces, hinfix⟩ := hshown
    { message := [], diagnostics := [{
        description := "Bad message".toList
        help := some ((Help.ofProse "Try:".toList).addSuggestion "Fix bug\n\nBody".toList) }] } _
    List.mem_cons_self rfl
  refine ⟨_, rfl, ?_, ?_⟩
  · have hpart := hinfix _ rfl
    rw [hpieces] at hpart
    exact ((List.suffix_append _ _).isInfix.trans (List.prefix_append _ _).isInfix).trans hpart
  · exact (hblock _ (by decide)).2.2 (by decide)

end CommitGate
