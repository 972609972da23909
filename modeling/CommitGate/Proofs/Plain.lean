import CommitGate.Notice
import CommitGate.Proofs.Lines
import CommitGate.Proofs.Painting

/-!
# Texts without escape characters

What a report or a notice shows is plain, without colours, if the texts in it are: layout adds no
escape characters. So a plain report in colour is the same report with control sequences.
-/

namespace CommitGate

/-! ## Plain texts -/

namespace Text

variable {t : Text}

theorem plain_ofNat (n : Nat) : (ofNat n).Plain := by
  intro h
  have hdigit : '\x1b'.isDigit = true := Nat.isDigit_of_mem_toDigits (by decide) (by decide) h
  exact absurd hdigit (by decide)

theorem plain_replicate {c : Char} (h : c ≠ '\x1b') (n : Nat) : Plain (List.replicate n c) :=
  fun hmem => h (List.eq_of_mem_replicate hmem).symm

@[simp] theorem plain_spaces (n : Nat) : (spaces n).Plain := plain_replicate (by decide) n

@[simp] theorem plain_alignRight_iff {width : Nat} : (alignRight width t).Plain ↔ t.Plain := by
  simp [alignRight]

theorem plain_count (n : Nat) {noun : Text} (h : noun.Plain) : (count n noun).Plain := by
  unfold count
  split_ifs <;> simp [plain_ofNat, h]

theorem plain_intercalate_iff {sep : Text} {ts : List Text} (hsep : sep.Plain) :
    Plain (sep.intercalate ts) ↔ ∀ t ∈ ts, Plain t := by
  induction ts with
  | nil => simp
  | cons t ts ih =>
    cases ts with
    | nil => simp
    | cons t' ts => simp [List.intercalate_cons_cons, hsep, ih]

theorem plain_joinLines_iff {ts : List Text} : (joinLines ts).Plain ↔ ∀ t ∈ ts, Plain t :=
  plain_intercalate_iff (by decide)

/-- The lines of a plain text are plain. -/
theorem plain_of_mem_lines (h : t.Plain) : ∀ l ∈ t.lines, Plain l :=
  fun _ hl => h.of_subset (subset_of_mem_lines hl)

theorem plain_subject (h : t.Plain) : Plain (t.subject?.getD []) := by
  unfold subject?
  cases hlines : t.lines with
  | nil => exact plain_nil
  | cons subject rest => exact plain_of_mem_lines h subject (hlines ▸ List.mem_cons_self)

theorem plain_suggestionBlock (h : t.Plain) : (suggestionBlock t).Plain := by
  unfold suggestionBlock
  rw [plain_joinLines_iff]
  intro l hl
  obtain ⟨line, hline, rfl⟩ := List.mem_map.mp hl
  simp [plain_of_mem_lines h line hline]

end Text

/-! ## Plain pieces -/

@[simp] theorem paint_plain (color : Bool) (t : Text) : (Piece.plain t).paint color = t := rfl

@[simp] theorem paint_styled_false (styles : List Style) (t : Text) :
    (Piece.styled styles t).paint false = t := rfl

theorem paint_intercalate (color : Bool) (sep : List Piece) (pss : List (List Piece)) :
    paint color (sep.intercalate pss) = (paint color sep).intercalate (pss.map (paint color)) := by
  induction pss with
  | nil => rfl
  | cons ps pss ih =>
    cases pss with
    | nil => simp
    | cons ps' pss =>
      rw [List.intercalate_cons_cons, paint_append, paint_append, ih]
      simp [List.intercalate_cons_cons]

/-! ### Progress and notices -/

theorem Text.subset_of_takeBytes? {n : Nat} {s t : Text} (h : t.takeBytes? n = some s) : s ⊆ t := by
  fun_induction Text.takeBytes? n t generalizing s with
  | case1 => cases h; exact List.nil_subset _
  | case2 => cases h
  | case3 n c rest hsize ih =>
    obtain ⟨u, hu, rfl⟩ := Option.map_eq_some_iff.mp h
    exact List.cons_subset_cons c (ih hu)
  | case4 => cases h

theorem plain_shortHash {hash : Text} (h : hash.Plain) : (shortHash hash).Plain := by
  unfold shortHash
  cases hcut : hash.takeBytes? shortHashSize with
  | none => exact h
  | some s => exact h.of_subset (Text.subset_of_takeBytes? hcut)

theorem plain_checkingPieces {hash message : Text} (hhash : hash.Plain) (hmessage : message.Plain) :
    (paint false (checkingPieces hash message)).Plain := by
  simp [checkingPieces, plain_shortHash hhash, Text.plain_subject hmessage]

theorem plain_finishedPieces : (paint false finishedPieces).Plain := by decide

/-- A notice whose texts hold no escape characters. -/
structure Notice.Plain (n : Notice) : Prop where
  /-- The kind of trouble is plain. -/
  title : n.title.Plain
  /-- The message is plain. -/
  message : n.message.Plain
  /-- The cause is plain. -/
  detail : ∀ t, n.detail = some t → t.Plain
  /-- The advice is plain. -/
  advice : ∀ t, n.advice = some t → t.Plain

theorem Notice.Plain.plain_pieces {n : Notice} (h : n.Plain) : (paint false n.pieces).Plain := by
  have hicon : n.severity.icon ≠ '\x1b' := by cases n.severity <;> decide
  unfold Notice.pieces
  rw [paint_append, paint_append, Text.plain_append_iff, Text.plain_append_iff]
  refine ⟨⟨?_, ?_⟩, ?_⟩
  · simp [hicon, h.title, h.message, newline]
  · cases hdetail : n.detail with
    | none => exact Text.plain_nil
    | some t => simp [h.detail t hdetail, newline]
  · cases hadvice : n.advice with
    | none => exact Text.plain_nil
    | some t => simp [h.advice t hadvice, newline]

/-! ### Reports -/

/-- The text of a part of a help. -/
def HelpPart.text : HelpPart → Text
  | .prose t => t
  | .suggestion t => t

/-- A help whose parts hold no escape characters. -/
def Help.Plain (h : Help) : Prop := ∀ part ∈ h.parts, part.text.Plain

@[simp] theorem Help.plain_ofProse_iff {t : Text} : (Help.ofProse t).Plain ↔ t.Plain := by
  simp [Help.Plain, Help.ofProse, HelpPart.text]

@[simp] theorem Help.plain_addProse_iff {h : Help} {t : Text} :
    (h.addProse t).Plain ↔ h.Plain ∧ t.Plain := by
  simp [Help.Plain, Help.addProse, HelpPart.text, or_imp, forall_and]

@[simp] theorem Help.plain_addSuggestion_iff {h : Help} {t : Text} :
    (h.addSuggestion t).Plain ↔ h.Plain ∧ t.Plain := by
  simp [Help.Plain, Help.addSuggestion, HelpPart.text, or_imp, forall_and]

/-- A diagnostic whose texts hold no escape characters. -/
structure Diagnostic.Plain (d : Diagnostic) : Prop where
  /-- The description is plain. -/
  description : d.description.Plain
  /-- The code is plain. -/
  code : ∀ t, d.code = some t → t.Plain
  /-- The hint is plain. -/
  hint : ∀ t, d.hint = some t → t.Plain
  /-- The help is plain. -/
  help : ∀ h, d.help = some h → h.Plain
  /-- The note is plain. -/
  note : ∀ t, d.note = some t → t.Plain

/-- A report whose message and diagnostics hold no escape characters. -/
structure Report.Plain (r : Report) : Prop where
  /-- The message is plain. -/
  message : r.message.Plain
  /-- All diagnostics are plain. -/
  diagnostics : ∀ d ∈ r.diagnostics, d.Plain

section Layout

variable {lines : List Text} (hlines : ∀ line ∈ lines, line.Plain)
include hlines

theorem plain_lineIn (l : Location) : (l.lineIn lines).Plain := by
  unfold Location.lineIn
  cases hline : lines[l.line]? with
  | none => exact Text.plain_nil
  | some line => exact hlines line (List.mem_of_getElem? hline)

theorem plain_contextPieces (row : Nat) : (paint false (contextPieces lines row)).Plain := by
  unfold contextPieces
  rw [paint_append, Text.plain_append_iff]
  constructor
  · split_ifs <;> simp [margin, newline]
  · cases row with
    | zero => exact Text.plain_nil
    | succ previous =>
      dsimp only
      cases hline : lines[previous]? with
      | none => exact Text.plain_nil
      | some line => simp [margin, newline, hlines line (List.mem_of_getElem? hline)]

theorem plain_sourcePieces (l : Location) : (paint false (sourcePieces lines l)).Plain := by
  have hline := plain_lineIn hlines l
  have hbefore := hline.of_subset (List.take_subset l.start _)
  have hinside := (hline.of_subset (List.take_subset l.stop _)).of_subset
    (List.drop_subset l.start _)
  have hafter := hline.of_subset (List.drop_subset (max l.start l.stop) _)
  simp [sourcePieces, splitColumns, rowLabel, Text.plain_ofNat, newline, hbefore, hinside, hafter]

end Layout

theorem plain_caretPieces (lines : List Text) (l : Location) :
    (paint false (caretPieces lines l)).Plain := by
  simp [caretPieces, margin, newline, Text.plain_replicate]

theorem plain_hintPieces {lines : List Text} {l : Location} {hint : Option Text}
    (h : ∀ t, hint = some t → t.Plain) : (paint false (hintPieces lines l hint)).Plain := by
  cases hint with
  | none => exact Text.plain_nil
  | some t => simp [hintPieces, newline, h t rfl]

/-- Without colours the pieces of a help are its plain form. -/
theorem Help.paint_pieces (h : Help) : paint false h.pieces = h.plain := by
  unfold Help.pieces Help.plain
  rw [paint_intercalate, List.map_map]
  congr 1
  refine List.map_congr_left fun part _ => ?_
  cases part <;> simp

theorem Help.Plain.plain_text {h : Help} (hparts : h.Plain) : h.plain.Plain := by
  unfold Help.plain
  rw [Text.plain_intercalate_iff (by decide)]
  intro t ht
  obtain ⟨part, hpart, rfl⟩ := List.mem_map.mp ht
  have hplain := hparts part hpart
  cases part with
  | prose t => exact hplain
  | suggestion t => exact Text.plain_suggestionBlock hplain

theorem Diagnostic.Plain.plain_pieces {d : Diagnostic} (h : d.Plain) {lines : List Text}
    (hlines : ∀ line ∈ lines, line.Plain) : (paint false (d.pieces lines)).Plain := by
  unfold Diagnostic.pieces
  rw [paint_append, paint_append, Text.plain_append_iff, Text.plain_append_iff]
  refine ⟨⟨?_, ?_⟩, ?_⟩
  · cases d.location with
    | none => exact Text.plain_nil
    | some l =>
      simp [locationPieces, paint_append, newline, plain_contextPieces hlines,
        plain_sourcePieces hlines, plain_caretPieces, plain_hintPieces h.hint]
  · cases hhelp : d.help with
    | none => exact Text.plain_nil
    | some help =>
      simp [paint_append, newline, Help.paint_pieces, (h.help help hhelp).plain_text]
  · cases hnote : d.note with
    | none => exact Text.plain_nil
    | some t => simp [newline, h.note t hnote]

theorem Diagnostic.Plain.plain_header {d : Diagnostic} (h : d.Plain) :
    d.groupKey.header.Plain := by
  unfold GroupKey.header Diagnostic.groupKey
  cases hcode : d.code with
  | none => simp [h.description]
  | some t => simp [h.description, h.code t hcode]

theorem plain_groupPieces {lines : List Text} (hlines : ∀ line ∈ lines, line.Plain)
    {ds : List Diagnostic} (hds : ∀ d ∈ ds, d.Plain) :
    (paint false (groupPieces lines ds)).Plain := by
  cases ds with
  | nil => exact Text.plain_nil
  | cons d ds =>
    unfold groupPieces
    rw [paint_append, paint_append, paint_flatMap, Text.plain_append_iff, Text.plain_append_iff,
      Text.plain_flatMap_iff]
    refine ⟨⟨?_, fun e he => (hds e he).plain_pieces hlines⟩, by decide⟩
    simp [newline, (hds d List.mem_cons_self).plain_header]

/-- Without colours a plain report shows no escape character. -/
theorem Report.Plain.plain_pieces {r : Report} (h : r.Plain) : (paint false r.pieces).Plain := by
  unfold Report.pieces
  rw [paint_append, paint_flatMap, Text.plain_append_iff, Text.plain_flatMap_iff]
  constructor
  · intro g hg
    refine plain_groupPieces (Text.plain_of_mem_lines h.message) fun d hd => h.diagnostics d ?_
    exact mem_of_mem_groupDiagnostics hg hd
  · split_ifs with hnil
    · exact Text.plain_nil
    · simp [summaryPieces, newline, Text.plain_count]

/-- In colour a plain report is the same report with control sequences. -/
theorem Report.Plain.unstyled_text {r : Report} (h : r.Plain) :
    (r.text true).map Text.unstyled = r.text false := by
  unfold Report.text
  split_ifs with hfits
  · exact congrArg Except.ok (styled_paint h.plain_pieces).unstyled_eq
  · rfl

end CommitGate
