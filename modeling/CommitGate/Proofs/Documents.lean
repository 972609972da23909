import CommitGate.Proofs.JsonReader
import CommitGate.Report.Basic
import Mathlib.Data.List.Forall2

/-!
# Report documents

The document of a report reads back as an object that says what the report says: its commit, its
subject, its diagnostics in their order, each with just the parts it has, and how many there are. Of
a help it says the plain text. So the document tells apart any two reports that differ in more than
the way a help falls into pieces.
-/

namespace CommitGate

namespace Diagnostic

/-- The fields say what the diagnostic says: its description, and every other part that it has. -/
structure WrittenAs (d : Diagnostic) (fields : List (Text × Json)) : Prop where
  /-- No name occurs twice. -/
  nodup : (fields.map Prod.fst).Nodup
  /-- No other names occur. -/
  names : ∀ field ∈ fields, field.1 ∈ ["description".toList, "code".toList, "hint".toList,
    "location".toList, "help".toList, "note".toList]
  /-- The description is always there. -/
  description : fields.lookup "description".toList = some (.string d.description)
  /-- The name of the rule, if it is known. -/
  code : fields.lookup "code".toList = d.code.map .string
  /-- The hint, if there is one. -/
  hint : fields.lookup "hint".toList = d.hint.map .string
  /-- The line and the columns, if the diagnostic has a place. -/
  location : fields.lookup "location".toList = d.location.map fun l =>
    .object [("line".toList, .number l.line),
      ("columns".toList, .object [("start".toList, .number l.start), ("end".toList, .number l.stop)])]
  /-- The plain text of the help, if there is one. -/
  help : fields.lookup "help".toList = d.help.map fun h => .string h.plain
  /-- The note, if there is one. -/
  note : fields.lookup "note".toList = d.note.map .string

/-- The diagnostics have the same parts, and helps with the same plain text. -/
structure ShownAlike (d d' : Diagnostic) : Prop where
  /-- The descriptions agree. -/
  description : d.description = d'.description
  /-- The rules agree. -/
  code : d.code = d'.code
  /-- The hints agree. -/
  hint : d.hint = d'.hint
  /-- The places agree. -/
  location : d.location = d'.location
  /-- The helps agree as plain text. -/
  help : d.help.map Help.plain = d'.help.map Help.plain
  /-- The notes agree. -/
  note : d.note = d'.note

end Diagnostic

/-! ## Optional fields -/

section OptionalField

variable {α β : Type} (name : String) (json : α → Json) (value : Option α)

theorem lookup_optionalField (key : Text) :
    (optionalField name json value).lookup key =
      if key = name.toList then value.map json else none := by
  by_cases h : key = name.toList
  · cases value <;> simp [optionalField, h]
  · have hkey : (key == name.toList) = false := beq_false_of_ne h
    cases value <;> simp [optionalField, List.lookup_cons, h, hkey]

theorem names_optionalField_sublist :
    ((optionalField name json value).map Prod.fst).Sublist [name.toList] := by
  cases value with
  | none => exact List.nil_sublist _
  | some v => exact List.Sublist.refl _

theorem optionalField_map (f : β → α) (value : Option β) :
    optionalField name (fun v => json (f v)) value = optionalField name json (value.map f) := by
  cases value <;> rfl

end OptionalField

/-! ## Diagnostics -/

namespace Diagnostic

theorem json_writtenAs (d : Diagnostic) : ∃ fields, d.json = .object fields ∧ d.WrittenAs fields := by
  refine ⟨_, rfl, ?_⟩
  -- The names that occur are among the six, in the same order, and these are all different.
  have hnames := (((((List.Sublist.refl ["description".toList]).append
    (names_optionalField_sublist "code" Json.string d.code)).append
    (names_optionalField_sublist "hint" Json.string d.hint)).append
    (names_optionalField_sublist "location" Location.json d.location)).append
    (names_optionalField_sublist "help" (fun h => Json.string h.plain) d.help)).append
    (names_optionalField_sublist "note" Json.string d.note)
  constructor
  case nodup =>
    simp only [List.map_append, List.map_cons, List.map_nil]
    exact hnames.nodup (by decide)
  case names =>
    intro field hfield
    have hmem := List.mem_map_of_mem (f := Prod.fst) hfield
    simp only [List.map_append, List.map_cons, List.map_nil] at hmem
    exact hnames.subset hmem
  case location =>
    change _ = d.location.map Location.json
    simp [List.lookup_append, lookup_optionalField, List.lookup_cons]
  all_goals simp [List.lookup_append, lookup_optionalField, List.lookup_cons]

theorem WrittenAs.shownAlike {d d' : Diagnostic} {fields : List (Text × Json)}
    (h : d.WrittenAs fields) (h' : d'.WrittenAs fields) : d.ShownAlike d' := by
  have hstring : Function.Injective Json.string := fun _ _ h => Json.string.inj h
  constructor
  case description => simpa using h.description.symm.trans h'.description
  case code => exact Option.map_injective hstring (h.code.symm.trans h'.code)
  case hint => exact Option.map_injective hstring (h.hint.symm.trans h'.hint)
  case location =>
    refine Option.map_injective ?_ (h.location.symm.trans h'.location)
    rintro ⟨line, start, stop⟩ ⟨line', start', stop'⟩ h
    simpa using h
  case help =>
    refine Option.map_injective hstring ?_
    simpa [Option.map_map, Function.comp_def] using h.help.symm.trans h'.help
  case note => exact Option.map_injective hstring (h.note.symm.trans h'.note)

theorem json_eq_iff {d d' : Diagnostic} : d.json = d'.json ↔ d.ShownAlike d' := by
  constructor
  case mp =>
    intro h
    obtain ⟨fields, hd, hfields⟩ := d.json_writtenAs
    obtain ⟨fields', hd', hfields'⟩ := d'.json_writtenAs
    obtain rfl : fields = fields' := Json.object.inj (hd.symm.trans (h.trans hd'))
    exact hfields.shownAlike hfields'
  case mpr =>
    intro h
    simp only [json, h.description, h.code, h.hint, h.location, h.note,
      optionalField_map "help" Json.string Help.plain, h.help]

end Diagnostic

/-! ## Reports -/

theorem ofOption_inj {t t' : Option Text} : Json.ofOption t = Json.ofOption t' ↔ t = t' := by
  cases t <;> cases t' <;> simp [Json.ofOption]

theorem map_json_eq_iff {ds ds' : List Diagnostic} :
    ds.map Diagnostic.json = ds'.map Diagnostic.json ↔ List.Forall₂ Diagnostic.ShownAlike ds ds' := by
  have heq : ds.map Diagnostic.json = ds'.map Diagnostic.json ↔
      List.Forall₂ (· = ·) (ds.map Diagnostic.json) (ds'.map Diagnostic.json) := by
    rw [List.forall₂_eq_eq_eq]
  rw [heq, List.forall₂_map_left_iff, List.forall₂_map_right_iff]
  simp only [Diagnostic.json_eq_iff]

theorem exists_writtenAs (ds : List Diagnostic) :
    ∃ items, ds.map Diagnostic.json = items.map Json.object ∧
      List.Forall₂ Diagnostic.WrittenAs ds items := by
  induction ds with
  | nil => exact ⟨[], rfl, .nil⟩
  | cons d ds ih =>
    obtain ⟨fields, hd, hfields⟩ := d.json_writtenAs
    obtain ⟨items, hds, hitems⟩ := ih
    exact ⟨fields :: items, by rw [List.map_cons, hd, hds, List.map_cons], .cons hfields hitems⟩

/-- Reports have the same object just if they say the same. The number of diagnostics adds nothing,
since it is told by the diagnostics themselves. -/
theorem Report.json_eq_iff {r r' : Report} : r.json = r'.json ↔
    r.commit = r'.commit ∧ r.message.subject? = r'.message.subject? ∧
      List.Forall₂ Diagnostic.ShownAlike r.diagnostics r'.diagnostics := by
  simp only [Report.json, Json.object.injEq, Json.array.injEq, Json.number.injEq, List.cons.injEq,
    Prod.mk.injEq, true_and, and_true, ofOption_inj, map_json_eq_iff]
  refine and_congr_right fun _ => and_congr_right fun _ => and_iff_left_of_imp ?_
  exact List.Forall₂.length_eq

/-- The document of a report reads back as what the report says. Two reports have one document just
if they agree in all of it. -/
theorem document_reads_back (r : Report) :
    (∃ items, Json.read? r.document = some (.object
        [("commit".toList, .ofOption r.commit),
          ("subject".toList, .ofOption r.message.lines.head?),
          ("diagnostics".toList, .array (items.map .object)),
          ("summary".toList, .object [("errors".toList, .number r.diagnostics.length)])]) ∧
      List.Forall₂ Diagnostic.WrittenAs r.diagnostics items) ∧
    ∀ r' : Report, r.document = r'.document ↔
      r.commit = r'.commit ∧ r.message.lines.head? = r'.message.lines.head? ∧
        List.Forall₂ Diagnostic.ShownAlike r.diagnostics r'.diagnostics := by
  constructor
  case left =>
    obtain ⟨items, hjson, hitems⟩ := exists_writtenAs r.diagnostics
    refine ⟨items, ?_, hitems⟩
    rw [Report.document, Json.read?_document, Report.json, hjson, Text.subject?]
  case right =>
    intro r'
    rw [← Text.subject?, ← Text.subject?, ← Report.json_eq_iff]
    exact Json.document_injective.eq_iff

end CommitGate
