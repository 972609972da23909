import CommitGate.Proofs.Cleanup
import Mathlib.Data.List.SplitBy

/-!
# Empty lines

Cleaning looks at the content lines once, from the first to the last, and remembers no more than
whether it kept a line with content just before. What it keeps in this way are the content lines
without the empty ones at either end, and with one empty line for each longest run of empty lines
between them. Comments, and all that comes from the scissors line on, have no part in it.
-/

namespace CommitGate

/-! ## Runs of empty lines -/

/-- A list of lines without the empty lines at either end. -/
def withoutOuterEmpty (ls : List Text) : List Text :=
  (ls.dropWhile List.isEmpty).rdropWhile List.isEmpty

/-- The runs of a list of lines: neighbouring empty lines together, each other line by itself. -/
def emptyRuns (ls : List Text) : List (List Text) :=
  ls.splitBy fun l next => l.isEmpty && next.isEmpty

/-- A list of lines with only the first line of each run. -/
def onePerRun (ls : List Text) : List Text := (emptyRuns ls).filterMap List.head?

variable {ls ms : List Text}

@[simp] theorem onePerRun_nil : onePerRun [] = [] := rfl

@[simp] theorem onePerRun_singleton (l : Text) : onePerRun [l] = [l] := rfl

/-- Where no run goes on from one list into the next, each list has its own runs. -/
theorem onePerRun_append (h : [] ∈ ls.getLast? → [] ∉ ms.head?) :
    onePerRun (ls ++ ms) = onePerRun ls ++ onePerRun ms := by
  have hruns : emptyRuns (ls ++ ms) = emptyRuns ls ++ emptyRuns ms := by
    refine List.splitBy_append fun l hl next hnext => ?_
    rw [Bool.and_eq_false_iff]
    by_contra hboth
    simp only [not_or, Bool.not_eq_false, List.isEmpty_iff] at hboth
    obtain ⟨rfl, rfl⟩ := hboth
    exact h hl hnext
  rw [onePerRun, hruns, List.filterMap_append]
  rfl

/-- Empty lines alone are a single run. -/
theorem onePerRun_of_forall_empty (hne : ls ≠ []) (h : ∀ l ∈ ls, l = []) : onePerRun ls = [[]] := by
  have hrun : emptyRuns ls = [ls] := by
    refine List.splitBy_of_isChain hne ?_
    rw [List.eq_replicate_of_mem h]
    exact List.isChain_replicate_of_rel _ rfl
  obtain ⟨l, rest, rfl⟩ := List.exists_cons_of_ne_nil hne
  rw [onePerRun, hrun, h l List.mem_cons_self]
  rfl

theorem onePerRun_cons {l : Text} (h : l ≠ []) (ls : List Text) :
    onePerRun (l :: ls) = l :: onePerRun ls := by
  have happend : onePerRun ([l] ++ ls) = onePerRun [l] ++ onePerRun ls :=
    onePerRun_append fun hlast => absurd (Option.some.inj hlast) h
  exact happend

theorem head?_dropWhile_isEmpty (ls : List Text) : (ls.dropWhile List.isEmpty).head? ≠ some [] := by
  intro hhead
  have hnot := List.head?_dropWhile_not List.isEmpty ls
  rw [hhead] at hnot
  exact absurd hnot (by decide)

/-- An empty line stands for all the empty lines that follow it. -/
theorem onePerRun_empty_cons (ls : List Text) :
    onePerRun ([] :: ls) = [] :: onePerRun (ls.dropWhile List.isEmpty) := by
  have hcut : [] :: ls = ([] :: ls.takeWhile List.isEmpty) ++ ls.dropWhile List.isEmpty := by
    rw [List.cons_append, List.takeWhile_append_dropWhile]
  have hempty : ∀ l ∈ [] :: ls.takeWhile List.isEmpty, l = [] := by
    intro l hl
    rcases List.mem_cons.mp hl with rfl | hl
    · rfl
    · exact List.isEmpty_iff.mp (List.mem_takeWhile_imp hl)
  rw [hcut, onePerRun_append fun _ => head?_dropWhile_isEmpty ls,
    onePerRun_of_forall_empty (List.cons_ne_nil _ _) hempty, List.singleton_append]

/-! ## What squeezing keeps -/

theorem squeeze_false_dropWhile (ls : List Text) :
    squeeze false (ls.dropWhile List.isEmpty) = squeeze false ls := by
  induction ls with
  | nil => rfl
  | cons l rest ih =>
    by_cases hl : l = []
    · subst hl
      exact ih
    · rw [List.dropWhile_cons_of_neg (by simpa using hl)]

/-- Before a line with content it makes no difference what came before. -/
theorem squeeze_false_eq_true (h : ls.head? ≠ some []) : squeeze false ls = squeeze true ls := by
  cases ls with
  | nil => rfl
  | cons l rest =>
    have hl : l ≠ [] := fun hnil => h (by rw [hnil, List.head?_cons])
    simp only [squeeze, if_neg hl]

/-- After a line with content, squeezing keeps one line of each run. -/
theorem squeeze_true_eq (ls : List Text) : squeeze true ls = onePerRun ls := by
  -- on the length, as a whole run is passed over at a time
  induction hlength : ls.length using Nat.strongRecOn generalizing ls with
  | ind n ih =>
    cases ls with
    | nil => rfl
    | cons l rest =>
      rw [List.length_cons] at hlength
      by_cases hl : l = []
      · subst hl
        have hshort : (rest.dropWhile List.isEmpty).length ≤ rest.length :=
          (List.dropWhile_suffix _).length_le
        calc squeeze true ([] :: rest)
            = [] :: squeeze false rest := by simp [squeeze]
          _ = [] :: squeeze true (rest.dropWhile List.isEmpty) := by
              rw [← squeeze_false_dropWhile, squeeze_false_eq_true (head?_dropWhile_isEmpty rest)]
          _ = [] :: onePerRun (rest.dropWhile List.isEmpty) := by rw [ih _ (by omega) _ rfl]
          _ = onePerRun ([] :: rest) := (onePerRun_empty_cons rest).symm
      · rw [onePerRun_cons hl, ← ih rest.length (by omega) rest rfl]
        simp only [squeeze, if_neg hl]

theorem squeeze_false_eq (ls : List Text) :
    squeeze false ls = onePerRun (ls.dropWhile List.isEmpty) := by
  rw [← squeeze_false_dropWhile, squeeze_false_eq_true (head?_dropWhile_isEmpty ls),
    squeeze_true_eq]

/-! ## The empty line at the end -/

theorem getLast?_onePerRun (h : ls.getLast? ≠ some []) : (onePerRun ls).getLast? ≠ some [] := by
  cases hlast : ls.getLast? with
  | none =>
    rw [List.getLast?_eq_none_iff.mp hlast]
    exact nofun
  | some l =>
    obtain ⟨front, rfl⟩ := List.getLast?_eq_some_iff.mp hlast
    have hl : l ≠ [] := fun hnil => h (hnil ▸ hlast)
    have hown : ([] : Text) ∉ [l].head? := fun hhead => hl (Option.some.inj hhead)
    rw [onePerRun_append fun _ => hown, onePerRun_singleton, List.getLast?_concat]
    exact fun hnil => hl (Option.some.inj hnil)

/-- The empty line at the end stands for all empty lines there. -/
theorem dropLastEmpty_onePerRun (ls : List Text) :
    dropLastEmpty (onePerRun ls) = onePerRun (ls.rdropWhile List.isEmpty) := by
  have hcut : ls.rdropWhile List.isEmpty ++ ls.rtakeWhile List.isEmpty = ls :=
    List.rdropWhile_append_rtakeWhile
  have hkept : (ls.rdropWhile List.isEmpty).getLast? ≠ some [] := by
    intro hlast
    have hne : ls.rdropWhile List.isEmpty ≠ [] := fun hnil => by
      rw [hnil] at hlast
      cases hlast
    refine List.rdropWhile_last_not List.isEmpty ls hne ?_
    rw [List.getLast?_eq_some_getLast hne] at hlast
    rw [Option.some.inj hlast]
    rfl
  by_cases hrun : ls.rtakeWhile List.isEmpty = []
  · rw [hrun, List.append_nil] at hcut
    rw [hcut] at hkept ⊢
    exact if_neg (getLast?_onePerRun hkept)
  · have hempty : ∀ l ∈ ls.rtakeWhile List.isEmpty, l = [] :=
      fun l hl => List.isEmpty_iff.mp (List.mem_rtakeWhile_imp hl)
    have hruns : onePerRun ls = onePerRun (ls.rdropWhile List.isEmpty) ++ [[]] := by
      rw [← onePerRun_of_forall_empty hrun hempty, ← onePerRun_append fun hlast => absurd hlast hkept,
        hcut]
    rw [hruns, dropLastEmpty, if_pos List.getLast?_concat, List.dropLast_concat]

/-- The lines of a cleaned message are its content lines without the empty ones at either end, and
with one empty line for each run of them. -/
theorem cleanedLines_eq (raw : Text) :
    cleanedLines raw = onePerRun (withoutOuterEmpty (contentLines raw)) := by
  rw [cleanedLines, squeeze_false_eq, dropLastEmpty_onePerRun, withoutOuterEmpty]

/-! ## Lines with content -/

theorem filter_squeeze (afterContent : Bool) (ls : List Text) :
    (squeeze afterContent ls).filter (· ≠ []) = ls.filter (· ≠ []) := by
  fun_induction squeeze afterContent ls with
  | case1 => rfl
  | case2 rest ih => simpa using ih
  | case3 afterContent rest hno ih => simpa using ih
  | case4 afterContent l rest hl ih =>
    rw [List.filter_cons_of_pos (by simpa using hl), List.filter_cons_of_pos (by simpa using hl), ih]

theorem filter_dropLastEmpty (ls : List Text) :
    (dropLastEmpty ls).filter (· ≠ []) = ls.filter (· ≠ []) := by
  unfold dropLastEmpty
  split_ifs with hlast
  · obtain ⟨front, rfl⟩ := List.getLast?_eq_some_iff.mp hlast
    simp
  · rfl

/-- Cleaning keeps the lines that have content, and their order. -/
theorem filter_lines_cleanup (raw : Text) :
    (cleanup raw).lines.filter (· ≠ []) = (contentLines raw).filter (· ≠ []) := by
  rw [lines_cleanup, cleanedLines, filter_dropLastEmpty, filter_squeeze]

/-! ## Lines that are left out -/

/-- What the given lines of an edited message leave of it. -/
def contentOf (ls : List Text) : List Text :=
  ((ls.takeWhile (· != scissorsLine)).filter (·.head? != some '#')).map Text.trimEnd

theorem contentOf_cons (l : Text) (ls : List Text) :
    contentOf (l :: ls) =
      if l = scissorsLine then [] else if l.head? = some '#' then contentOf ls
      else l.trimEnd :: contentOf ls := by
  unfold contentOf
  split_ifs with hscissors hcomment
  · rw [List.takeWhile_cons_of_neg (by simpa using hscissors), List.filter_nil, List.map_nil]
  · rw [List.takeWhile_cons_of_pos (by simpa using hscissors),
      List.filter_cons_of_neg (by simpa using hcomment)]
  · rw [List.takeWhile_cons_of_pos (by simpa using hscissors),
      List.filter_cons_of_pos (by simpa using hcomment), List.map_cons]

/-- What comes from the scissors line on leaves nothing. -/
theorem contentOf_append_scissors (before after : List Text) :
    contentOf (before ++ scissorsLine :: after) = contentOf before := by
  induction before with
  | nil => rw [List.nil_append, contentOf_cons, if_pos rfl]; rfl
  | cons l before ih => rw [List.cons_append, contentOf_cons, contentOf_cons, ih]

/-- A comment leaves nothing. -/
theorem contentOf_append_comment (before after : List Text) {comment : Text}
    (hcomment : comment.head? = some '#') (hne : comment ≠ scissorsLine) :
    contentOf (before ++ comment :: after) = contentOf (before ++ after) := by
  induction before with
  | nil => rw [List.nil_append, contentOf_cons, if_neg hne, if_pos hcomment, List.nil_append]
  | cons l before ih =>
    rw [List.cons_append, List.cons_append, contentOf_cons, contentOf_cons, ih]

/-- Only what the lines of a message leave of it matters. -/
theorem cleanup_congr_contentOf {raw raw' : Text}
    (h : contentOf raw.lines = contentOf raw'.lines) : cleanup raw = cleanup raw' := by
  have hcontent : contentLines raw = contentLines raw' := h
  unfold cleanup
  rw [hcontent]

/-! ## What cleaning does -/

/-- Take the lines before the first scissors line, without the comments, and without the blanks at
the end of each. The cleaned message is these lines, less the empty ones at either end, and with one
empty line for each longest run of empty lines. Its lines with content are those of the lines taken,
in their order. The scissors line and all after it make no difference to it, and neither does any
comment. -/
theorem cleanup_joins_content :
    (∀ raw : Text,
      let content := ((raw.lines.takeWhile (· != scissorsLine)).filter
        (·.head? != some '#')).map Text.trimEnd
      cleanup raw = Text.joinLines (onePerRun (withoutOuterEmpty content)) ∧
      (cleanup raw).lines.filter (· ≠ []) = content.filter (· ≠ [])) ∧
    (∀ (raw raw' : Text) (before after : List Text),
      raw.lines = before ++ scissorsLine :: after → raw'.lines = before →
      cleanup raw = cleanup raw') ∧
    ∀ (raw raw' : Text) (before after : List Text) (comment : Text),
      comment.head? = some '#' → comment ≠ scissorsLine →
      raw.lines = before ++ comment :: after → raw'.lines = before ++ after →
      cleanup raw = cleanup raw' := by
  refine ⟨fun raw => ⟨?_, filter_lines_cleanup raw⟩, ?_, ?_⟩
  · exact congrArg Text.joinLines (cleanedLines_eq raw)
  · intro raw raw' before after hraw hraw'
    refine cleanup_congr_contentOf ?_
    rw [hraw, hraw', contentOf_append_scissors]
  · intro raw raw' before after comment hcomment hne hraw hraw'
    refine cleanup_congr_contentOf ?_
    rw [hraw, hraw', contentOf_append_comment before after hcomment hne]

/-- An edited message with the given lines between its empty lines. -/
def editedParser (between : Text) : Text :=
  "\nAdd a parser \n\n".toList ++ between ++ "\n \nIt reads.\n\n".toList

/-- A comment between empty lines and a diff below the scissors leave no trace. -/
theorem cleanup_editedParser :
    cleanup (editedParser "# Say why.\n".toList ++ Text.line scissorsLine ++ "+It reads.\n".toList) =
        "Add a parser\n\nIt reads.".toList ∧
      cleanup (editedParser "# Say why.\n".toList ++ Text.line scissorsLine ++ "+It reads.\n".toList) =
        cleanup (editedParser "# Say why.\n".toList) ∧
      cleanup (editedParser "# Say why.\n".toList) = cleanup (editedParser []) := by
  obtain ⟨hjoins, hscissors, hcomment⟩ := cleanup_joins_content
  refine ⟨?_, ?_, ?_⟩
  · rw [(hjoins _).1]
    decide +kernel
  · exact hscissors _ _ (editedParser "# Say why.\n".toList).lines ["+It reads.".toList]
      (by decide +kernel) rfl
  · exact hcomment _ _ [[], "Add a parser ".toList, []] [[], [' '], "It reads.".toList, []]
      "# Say why.".toList (by decide) (by decide) (by decide +kernel) (by decide +kernel)

end CommitGate
