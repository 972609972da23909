import CommitGate.Text.Lines
import Mathlib.Data.List.Basic

/-!
# Lines and the text that they come from

A text either has no line feed, and then is a line of its own unless it is empty, or starts with a
line that a line feed ends, and then its other lines are those of the rest. Facts about the lines of
a text are proved by induction along these two cases. Lines that are joined are the pieces between
the line feeds of the text they make, and come apart as these do.
-/

namespace CommitGate.Text

variable {t l : Text}

@[simp] theorem lines_nil : lines [] = [] := rfl

theorem dropReturn_eq_self (h : t.getLast? ≠ some '\r') : dropReturn t = t := if_neg h

theorem dropReturn_eq_self_iff : dropReturn t = t ↔ t.getLast? ≠ some '\r' := by
  constructor
  · intro hkept hreturn
    have hshort : dropReturn t = t.dropLast := if_pos hreturn
    have hne : t ≠ [] := by
      rintro rfl
      cases hreturn
    have hlength : t.dropLast.length = t.length := by rw [← hshort, hkept]
    have hpos : 0 < t.length := List.length_pos_iff.mpr hne
    rw [List.length_dropLast] at hlength
    omega
  · exact dropReturn_eq_self

theorem map_dropReturn_eq_self_iff {ls : List Text} :
    ls.map dropReturn = ls ↔ ∀ l ∈ ls, l.getLast? ≠ some '\r' := by
  have hkept : ls.map dropReturn = ls.map id ↔ ∀ l ∈ ls, dropReturn l = id l := List.map_inj_left
  rw [List.map_id] at hkept
  rw [hkept]
  simp only [← dropReturn_eq_self_iff, id]

/-! ## The pieces between line feeds -/

/-- The pieces between the line feeds of a text are its lines, if none of them ends in a carriage
return and the last one is not empty. -/
theorem linesOfPieces_eq_self {ps : List Text} (hreturn : ∀ p ∈ ps, p.getLast? ≠ some '\r')
    (hlast : ps.getLast? ≠ some []) : linesOfPieces ps = ps := by
  fun_induction linesOfPieces ps with
  | case1 => rfl
  | case2 => exact absurd rfl hlast
  | case3 => rfl
  | case4 piece next rest ih =>
    rw [dropReturn_eq_self (hreturn piece List.mem_cons_self),
      ih (fun p hp => hreturn p (List.mem_cons_of_mem piece hp)) hlast]

/-- All pieces before the last one are ended by a line feed. -/
theorem linesOfPieces_concat (ps : List Text) (last : Text) :
    linesOfPieces (ps ++ [last]) = ps.map dropReturn ++ if last = [] then [] else [last] := by
  induction ps with
  | nil => rfl
  | cons piece rest ih =>
    have hne : rest ++ [last] ≠ [] := List.append_ne_nil_of_right_ne_nil rest (List.cons_ne_nil _ [])
    obtain ⟨next, more, hmore⟩ := List.exists_cons_of_ne_nil hne
    rw [List.cons_append, hmore, linesOfPieces, ← hmore, ih, List.map_cons, List.cons_append]

/-- A line is a piece, or a piece without the carriage return at its end. -/
theorem getElem?_linesOfPieces {ps : List Text} {row : Nat}
    (h : (linesOfPieces ps)[row]? = some l) :
    ∃ p, ps[row]? = some p ∧ (l = p ∨ l = dropReturn p) := by
  fun_induction linesOfPieces ps generalizing row with
  | case1 => cases h
  | case2 => cases h
  | case3 last hlast => exact ⟨l, h, .inl rfl⟩
  | case4 piece next rest ih =>
    cases row with
    | zero =>
      cases h
      exact ⟨piece, rfl, .inr rfl⟩
    | succ row => exact ih h

/-! ## Lines of a text -/

/-- A text without line feeds is its only line. -/
theorem lines_of_not_mem (h : '\n' ∉ l) (hne : l ≠ []) : lines l = [l] := by
  rw [lines, List.splitOn_eq_singleton h, linesOfPieces, if_neg hne]

theorem subject?_of_not_mem (h : '\n' ∉ l) (hne : l ≠ []) : subject? l = some l := by
  rw [subject?, lines_of_not_mem h hne, List.head?_cons]

/-- The line that a text starts with comes before the lines of the rest. -/
theorem lines_append_newline (h : '\n' ∉ l) (t : Text) :
    lines (l ++ '\n' :: t) = dropReturn l :: lines t := by
  have hl : ∀ c ∈ l, (c == '\n') = false := fun c hc => by
    rw [beq_eq_false_iff_ne]
    rintro rfl
    exact h hc
  have hsplit : (l ++ '\n' :: t).splitOn '\n' = l :: t.splitOn '\n' :=
    List.splitOnP_append_cons_of_forall_mem hl '\n' rfl t
  obtain ⟨next, rest, hrest⟩ : ∃ next rest, t.splitOn '\n' = next :: rest :=
    List.exists_cons_of_ne_nil (List.splitOnP_ne_nil _ _)
  rw [lines, hsplit, hrest, linesOfPieces, ← hrest, lines]

/-- What holds of texts without line feeds, and of a line with what follows it if it holds of what
follows, holds of every text. -/
theorem line_induction {P : Text → Prop} (last : ∀ l, '\n' ∉ l → P l)
    (line : ∀ l t, '\n' ∉ l → P t → P (l ++ '\n' :: t)) (t : Text) : P t := by
  -- the line that is being read may have started before the text
  suffices h : ∀ started, '\n' ∉ started → P (started ++ t) from h [] List.not_mem_nil
  induction t with
  | nil => intro started hstarted; simpa using last started hstarted
  | cons c rest ih =>
    intro started hstarted
    by_cases hc : c = '\n'
    · subst hc
      exact line started rest hstarted (ih [] List.not_mem_nil)
    · have hmore : '\n' ∉ started ++ [c] := by simp [hstarted, Ne.symm hc]
      simpa using ih (started ++ [c]) hmore

theorem dropReturn_subset (t : Text) : dropReturn t ⊆ t := by
  unfold dropReturn
  split_ifs
  · exact List.dropLast_subset t
  · exact List.Subset.refl t

/-- A line holds characters of the text only. -/
theorem subset_of_mem_lines (h : l ∈ t.lines) : l ⊆ t := by
  induction t using line_induction with
  | last s hs =>
    by_cases hne : s = []
    · subst hne
      cases h
    · rw [lines_of_not_mem hs hne, List.mem_singleton] at h
      rw [h]
      exact List.Subset.refl s
  | line s rest hs ih =>
    rw [lines_append_newline hs] at h
    rcases List.mem_cons.mp h with rfl | hrest
    · exact List.Subset.trans (dropReturn_subset s) (List.subset_append_left s _)
    · have hfeed := List.Subset.trans (ih hrest) (List.subset_cons_self '\n' rest)
      exact List.Subset.trans hfeed (List.subset_append_right s _)

theorem newline_not_mem_of_mem_lines (h : l ∈ t.lines) : '\n' ∉ l := by
  induction t using line_induction with
  | last s hs =>
    by_cases hne : s = []
    · subst hne
      cases h
    · rw [lines_of_not_mem hs hne, List.mem_singleton] at h
      rwa [h]
  | line s rest hs ih =>
    rw [lines_append_newline hs] at h
    rcases List.mem_cons.mp h with rfl | hrest
    · exact fun hmem => hs (dropReturn_subset s hmem)
    · exact ih hrest

/-! ## Joined lines -/

theorem intercalate_append {α : Type} (sep : List α) {xs ys : List (List α)} (hxs : xs ≠ [])
    (hys : ys ≠ []) :
    sep.intercalate (xs ++ ys) = sep.intercalate xs ++ sep ++ sep.intercalate ys := by
  induction xs with
  | nil => exact absurd rfl hxs
  | cons x xs ih =>
    by_cases hmore : xs = []
    · subst hmore
      rw [List.singleton_append, List.intercalate_cons_of_ne_nil hys, List.intercalate_singleton]
    · have hboth : xs ++ ys ≠ [] := List.append_ne_nil_of_left_ne_nil hmore ys
      rw [List.cons_append, List.intercalate_cons_of_ne_nil hboth, ih hmore,
        List.intercalate_cons_of_ne_nil hmore]
      simp only [List.append_assoc]

theorem intercalate_concat {α : Type} (sep : List α) (xs : List (List α)) (x : List α) :
    sep.intercalate (xs ++ [x]) = (if xs = [] then [] else sep.intercalate xs ++ sep) ++ x := by
  by_cases hxs : xs = []
  · subst hxs
    exact List.intercalate_singleton
  · rw [if_neg hxs, intercalate_append sep hxs (List.cons_ne_nil x []), List.intercalate_singleton]

theorem joinLines_concat (ls : List Text) (l : Text) :
    joinLines (ls ++ [l]) = (if ls = [] then [] else line (joinLines ls)) ++ l :=
  intercalate_concat ['\n'] ls l

theorem joinLines_cons_of_ne_nil {ls : List Text} (h : ls ≠ []) (l : Text) :
    joinLines (l :: ls) = l ++ '\n' :: joinLines ls := by
  rw [joinLines, List.intercalate_cons_of_ne_nil h, List.append_assoc]
  rfl

/-- A character of joined lines is a line feed between them, or stands on one of them. -/
theorem mem_joinLines {c : Char} {ls : List Text} (h : c ∈ joinLines ls) :
    c = '\n' ∨ ∃ l ∈ ls, c ∈ l := by
  induction ls with
  | nil => cases h
  | cons l rest ih =>
    by_cases hrest : rest = []
    · subst hrest
      rw [joinLines, List.intercalate_singleton] at h
      exact .inr ⟨l, List.mem_cons_self, h⟩
    · rw [joinLines_cons_of_ne_nil hrest, List.mem_append, List.mem_cons] at h
      rcases h with hl | rfl | hlater
      · exact .inr ⟨l, List.mem_cons_self, hl⟩
      · exact .inl rfl
      · rcases ih hlater with hfeed | ⟨x, hx, hc⟩
        · exact .inl hfeed
        · exact .inr ⟨x, List.mem_cons_of_mem l hx, hc⟩

/-- Lines that are joined are the pieces between line feeds again, if none of them holds one. -/
theorem lines_joinLines_eq {ls : List Text} (hfeed : ∀ l ∈ ls, '\n' ∉ l) :
    (joinLines ls).lines = linesOfPieces ls := by
  by_cases hne : ls = []
  · subst hne
    rfl
  · rw [lines, joinLines, List.splitOn_intercalate '\n' hfeed hne]

/-- Lines that are joined come apart again if none holds a line feed and the last one counts. A
carriage return at the end of another one is read as part of the line ending. -/
theorem lines_joinLines_concat {ls : List Text} {last : Text}
    (hfeed : ∀ l ∈ ls ++ [last], '\n' ∉ l) (hlast : last ≠ []) :
    (joinLines (ls ++ [last])).lines = ls.map dropReturn ++ [last] := by
  rw [lines_joinLines_eq hfeed, linesOfPieces_concat, if_neg hlast]

/-- Lines that are joined come apart again, unless one holds a line feed or a carriage return that
would be read as part of a line ending, or the last one is empty and would not count. -/
theorem lines_joinLines {ls : List Text} (hfeed : ∀ l ∈ ls, '\n' ∉ l)
    (hreturn : ∀ l ∈ ls, l.getLast? ≠ some '\r') (hlast : ls.getLast? ≠ some []) :
    (joinLines ls).lines = ls := by
  rw [lines_joinLines_eq hfeed, linesOfPieces_eq_self hreturn hlast]

/-- Joined lines that are ended by a line feed come apart again, an empty one at the end too. -/
theorem lines_line_joinLines {ls : List Text} (hne : ls ≠ []) (hfeed : ∀ l ∈ ls, '\n' ∉ l)
    (hreturn : ∀ l ∈ ls, l.getLast? ≠ some '\r') : (line (joinLines ls)).lines = ls := by
  have hended : line (joinLines ls) = joinLines (ls ++ [[]]) := by
    rw [joinLines_concat, if_neg hne, List.append_nil]
  have hfeed' : ∀ l ∈ ls ++ [[]], '\n' ∉ l := by
    intro l hl
    rcases List.mem_append.mp hl with hl | hl
    · exact hfeed l hl
    · rw [List.mem_singleton.mp hl]
      exact List.not_mem_nil
  rw [hended, lines_joinLines_eq hfeed', linesOfPieces_concat, if_pos rfl, List.append_nil,
    map_dropReturn_eq_self_iff.mpr hreturn]

/-- A line feed at the end of a text adds no line if it ends one that holds something. -/
theorem lines_line {c : Char} (hlast : t.getLast? = some c) (hreturn : c ≠ '\r')
    (hfeed : c ≠ '\n') : lines (line t) = lines t := by
  induction t using line_induction with
  | last l hl =>
    have hne : l ≠ [] := by
      rintro rfl
      cases hlast
    have hkept : dropReturn l = l := dropReturn_eq_self (by rw [hlast]; simpa using hreturn)
    rw [line, lines_append_newline hl, hkept, lines_nil, lines_of_not_mem hl hne]
  | line l rest hl ih =>
    have hrest : rest.getLast? = some c := by
      cases rest with
      | nil =>
        rw [List.getLast?_concat] at hlast
        exact absurd (Option.some.inj hlast).symm hfeed
      | cons d rest => simpa using hlast
    rw [line, List.append_assoc, List.cons_append, lines_append_newline hl, lines_append_newline hl]
    exact congrArg _ (ih hrest)

end CommitGate.Text
