import CommitGate.Report.Layout
import Mathlib.Data.List.Infix
import Mathlib.Data.List.SplitBy

/-!
# The layout of a report

A highlight that lies within its line is cut out of it at its own columns, and the line so cut is
part of the text of every report with a diagnostic that points at it.
-/

namespace CommitGate

/-! ## Painting -/

@[simp] theorem paint_nil (color : Bool) : paint color [] = [] := rfl

@[simp] theorem paint_cons (color : Bool) (p : Piece) (ps : List Piece) :
    paint color (p :: ps) = p.paint color ++ paint color ps := rfl

theorem paint_append (color : Bool) (ps qs : List Piece) :
    paint color (ps ++ qs) = paint color ps ++ paint color qs := List.flatMap_append

theorem paint_flatMap {α : Type} (color : Bool) (f : α → List Piece) (xs : List α) :
    paint color (xs.flatMap f) = xs.flatMap fun x => paint color (f x) := List.flatMap_assoc ..

/-! ## Highlights within a line -/

/-- A location that highlights at least one character of the given line, and nothing past it. -/
structure Location.Within (l : Location) (lines : List Text) (line : Text) : Prop where
  /-- The location points at the line. -/
  row : lines[l.line]? = some line
  /-- Something is highlighted. -/
  start_lt_stop : l.start < l.stop
  /-- The highlight ends on the line. -/
  stop_le : l.stop ≤ line.length

/-- Cutting a line loses nothing of it. -/
theorem append_splitColumns {line : Text} {start stop : Nat} (h : start ≤ stop) :
    (splitColumns line start stop).1 ++ (splitColumns line start stop).2.1 ++
      (splitColumns line start stop).2.2 = line := by
  unfold splitColumns
  dsimp only
  have hinside : line.take start ++ (line.take stop).drop start = line.take stop := by
    rw [← Nat.min_eq_left h, ← List.take_take, Nat.min_eq_left h, List.take_append_drop]
  rw [hinside, max_eq_right h, List.take_append_drop]

namespace Location.Within

variable {l : Location} {lines : List Text} {line : Text}

theorem lineIn_eq (h : l.Within lines line) : l.lineIn lines = line := by
  rw [lineIn, h.row, Option.getD_some]

theorem length_before (h : l.Within lines line) :
    (splitColumns line l.start l.stop).1.length = l.start := by
  have := h.start_lt_stop
  have := h.stop_le
  simp only [splitColumns, List.length_take]
  omega

theorem length_inside (h : l.Within lines line) :
    (splitColumns line l.start l.stop).2.1.length = l.stop - l.start := by
  have := h.stop_le
  simp only [splitColumns, List.length_drop, List.length_take]
  omega

theorem length_after (h : l.Within lines line) :
    (splitColumns line l.start l.stop).2.2.length = line.length - l.stop := by
  have := h.start_lt_stop
  simp only [splitColumns, List.length_drop]
  omega

/-- The carets start under the first highlighted character. -/
theorem firstColumn_eq (h : l.Within lines line) : l.firstColumn lines = l.start := by
  rw [firstColumn, h.lineIn_eq, h.length_before]

/-- The carets end under the last highlighted character. -/
theorem endColumn_eq (h : l.Within lines line) : l.endColumn lines = l.stop := by
  have := h.start_lt_stop
  rw [endColumn, h.firstColumn_eq, h.lineIn_eq, h.length_inside]
  omega

end Location.Within

/-! ## What a report shows -/

theorem sourcePieces_isInfix_pieces {lines : List Text} {d : Diagnostic} {l : Location}
    (h : d.location = some l) : sourcePieces lines l <:+: d.pieces lines := by
  have hlocation : sourcePieces lines l <:+: locationPieces lines l d.hint := by
    unfold locationPieces
    rw [List.append_assoc, List.append_assoc]
    exact List.infix_append ..
  unfold Diagnostic.pieces
  rw [h, List.append_assoc]
  exact List.infix_append_of_infix_left hlocation

theorem pieces_isInfix_groupPieces {lines : List Text} {ds : List Diagnostic} {d : Diagnostic}
    (h : d ∈ ds) : d.pieces lines <:+: groupPieces lines ds := by
  cases ds with
  | nil => cases h
  | cons d' ds =>
    have hflat : d.pieces lines <:+: (d' :: ds).flatMap (Diagnostic.pieces lines) :=
      List.infix_of_mem_flatten (List.mem_map_of_mem h)
    exact List.infix_append_of_infix_left (List.infix_append_of_infix_right hflat)

/-- Every diagnostic is in one of the groups. -/
theorem exists_mem_groupDiagnostics {ds : List Diagnostic} {d : Diagnostic} (h : d ∈ ds) :
    ∃ g ∈ groupDiagnostics ds, d ∈ g := by
  rw [← List.mem_flatten, groupDiagnostics, List.flatten_splitBy, List.mem_mergeSort]
  exact h

theorem mem_of_mem_groupDiagnostics {ds g : List Diagnostic} {d : Diagnostic}
    (hg : g ∈ groupDiagnostics ds) (hd : d ∈ g) : d ∈ ds := by
  have hflat : d ∈ (groupDiagnostics ds).flatten := List.mem_flatten.mpr ⟨g, hg, hd⟩
  rwa [groupDiagnostics, List.flatten_splitBy, List.mem_mergeSort] at hflat

namespace Report

variable {r : Report} {d : Diagnostic} {l : Location}

/-- All that is laid out for a diagnostic is part of the report. -/
theorem diagnosticPieces_isInfix_pieces (hd : d ∈ r.diagnostics) :
    d.pieces r.message.lines <:+: r.pieces := by
  obtain ⟨g, hg, hdg⟩ := exists_mem_groupDiagnostics hd
  have hgroups : groupPieces r.message.lines g <:+:
      (groupDiagnostics r.diagnostics).flatMap (groupPieces r.message.lines) :=
    List.infix_of_mem_flatten (List.mem_map_of_mem hg)
  unfold pieces
  exact List.infix_append_of_infix_left ((pieces_isInfix_groupPieces hdg).trans hgroups)

theorem paint_isInfix_text {color : Bool} {ps : List Piece} {t : Text} (hps : ps <:+: r.pieces)
    (ht : r.text color = .ok t) : paint color ps <:+: t := by
  unfold text at ht
  split_ifs at ht with hfits
  cases ht
  exact hps.flatMap (Piece.paint color)

/-- The line that a diagnostic points at is part of the text of the report. -/
theorem paint_sourcePieces_isInfix_text {color : Bool} {t : Text} (hd : d ∈ r.diagnostics)
    (hl : d.location = some l) (ht : r.text color = .ok t) :
    paint color (sourcePieces r.message.lines l) <:+: t := by
  have hpieces : sourcePieces r.message.lines l <:+: r.pieces :=
    (sourcePieces_isInfix_pieces hl).trans (diagnosticPieces_isInfix_pieces hd)
  exact paint_isInfix_text hpieces ht

end Report

end CommitGate
