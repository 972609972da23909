import CommitGate.Proofs.Settings
import Mathlib.Data.List.Induction

/-!
# Which settings are found

Files can be ruled out, and then settings are the default ones. A file that is named has to exist
and to be readable; the file in the working directory need not exist. A document gives settings just
if it is TOML and has no entries but the two that fit, and the settings are then the only ones that
agree with its entries. Overrides go before what is found, each field by itself.
-/

namespace CommitGate.Settings

variable {s s' found : Settings} {entries : Toml.Entries} {entry : Toml.Label × Toml.Value}
  {document : Text}

/-! ## The entries that fit -/

/-- An entry that a settings document may have: a reference that is a string, or a limit that is a
number of 64 bits. -/
def Fits (entry : Toml.Label × Toml.Value) : Prop :=
  (entry.1.name = "base_ref".toList ∧ ∃ content, entry.2 = .string content) ∨
    (entry.1.name = "limit".toList ∧ ∃ n : Nat, n < Nat.pow 2 64 ∧ entry.2 = .integer (some n))

theorem exists_addEntry_iff (s : Settings) : (∃ s', s.addEntry entry = .ok s') ↔ Fits entry := by
  have hbelow : maxLimit < Nat.pow 2 64 := by decide
  simp only [addEntry_eq_ok_iff, set_eq_ok_iff]
  constructor
  · rintro ⟨s', field, hkey, ⟨rfl, content, hvalue, -⟩ | ⟨rfl, n, hvalue, hle, -⟩⟩
    · exact .inl ⟨hkey, content, hvalue⟩
    · exact .inr ⟨hkey, n, Nat.lt_of_le_of_lt hle hbelow, hvalue⟩
  · rintro (⟨hkey, content, hvalue⟩ | ⟨hkey, n, hlt, hvalue⟩)
    · exact ⟨_, .baseRef, hkey, .inl ⟨rfl, content, hvalue, rfl⟩⟩
    · exact ⟨_, .limit, hkey, .inr ⟨rfl, n, hvalue, Nat.le_sub_one_of_lt hlt, rfl⟩⟩

/-- Entries are carried over, one after the other, just if each of them fits. -/
theorem exists_foldlM_addEntry_iff (s : Settings) :
    (∃ found, entries.foldlM addEntry s = .ok found) ↔ ∀ e ∈ entries, Fits e := by
  induction entries generalizing s with
  | nil =>
    constructor
    · intro _ e he
      cases he
    · intro _
      exact ⟨s, rfl⟩
  | cons entry rest ih =>
    rw [List.forall_mem_cons, ← exists_addEntry_iff s, List.foldlM_cons]
    constructor
    · rintro ⟨found, h⟩
      obtain ⟨s', hadded, hrest⟩ := bind_eq_ok_iff.mp h
      exact ⟨⟨s', hadded⟩, (ih s').mp ⟨found, hrest⟩⟩
    · rintro ⟨⟨s', hadded⟩, hfits⟩
      obtain ⟨found, hrest⟩ := (ih s').mpr hfits
      exact ⟨found, bind_eq_ok_iff.mpr ⟨s', hadded, hrest⟩⟩

theorem exists_ofTable_iff : (∃ found, ofTable entries = .ok found) ↔ ∀ e ∈ entries, Fits e := by
  unfold ofTable
  rw [exists_foldlM_addEntry_iff]
  simp only [List.mem_mergeSort]

/-! ## The settings that a table gives -/

/-- Where keys are distinct, only one value can be read for a field. -/
theorem Reads.unique {α : Type} {field : Field} {written : α → Toml.Value} {default a b : α}
    (hdistinct : entries.Distinct) (hwritten : written.Injective)
    (ha : Reads entries field written default a) (hb : Reads entries field written default b) :
    a = b := by
  rcases ha with ⟨e, he, hkey, hvalue⟩ | ⟨hnone, rfl⟩
  · rcases hb with ⟨e', he', hkey', hvalue'⟩ | ⟨hnone, rfl⟩
    · have hsame : e = e' := hdistinct.eq_of_name_eq he he' (hkey.trans hkey'.symm)
      subst hsame
      exact hwritten (hvalue.symm.trans hvalue')
    · exact absurd hkey (hnone e he)
  · rcases hb with ⟨e', he', hkey', -⟩ | ⟨-, rfl⟩
    · exact absurd hkey' (hnone e' he')
    · rfl

theorem Gives.unique (hdistinct : entries.Distinct) (h : Gives entries s) (h' : Gives entries s') :
    s = s' := by
  have hbase : s.baseRef = s'.baseRef :=
    h.baseRef.unique hdistinct (fun a b hab => Toml.Value.string.inj hab) h'.baseRef
  have hlimit : s.limit = s'.limit := by
    refine h.limit.unique hdistinct (fun a b hab => ?_) h'.limit
    exact Int.ofNat.inj (Option.some.inj (Toml.Value.integer.inj hab))
  cases s
  cases s'
  dsimp only at hbase hlimit
  rw [hbase, hlimit]

theorem ofTable_eq_ok_iff (hdistinct : entries.Distinct) :
    ofTable entries = .ok found ↔ (∀ e ∈ entries, Fits e) ∧ Gives entries found := by
  constructor
  · intro h
    exact ⟨exists_ofTable_iff.mp ⟨found, h⟩, gives_of_ofTable h⟩
  · rintro ⟨hfits, hgives⟩
    obtain ⟨given, hgiven⟩ := exists_ofTable_iff.mpr hfits
    have hsame := (gives_of_ofTable hgiven).unique hdistinct hgives
    rw [hgiven, hsame]

/-! ## The settings that a document gives -/

/-- A TOML document all of whose entries fit. -/
def IsFit (document : Text) : Prop :=
  ∃ entries, Toml.read document = .ok entries ∧ ∀ e ∈ entries, Fits e

/-- Settings that agree with the entries of a TOML document all of whose entries fit. -/
def Describes (document : Text) (found : Settings) : Prop :=
  ∃ entries, Toml.read document = .ok entries ∧ (∀ e ∈ entries, Fits e) ∧ Gives entries found

theorem exists_ofDocument_iff : (∃ found, ofDocument document = .ok found) ↔ IsFit document := by
  unfold ofDocument IsFit
  cases hread : Toml.read document with
  | error m => simp
  | ok entries =>
    simp only [Except.ok.injEq, exists_eq_left']
    exact exists_ofTable_iff

theorem ofDocument_eq_ok_iff : ofDocument document = .ok found ↔ Describes document found := by
  unfold ofDocument Describes
  cases hread : Toml.read document with
  | error m => simp
  | ok entries =>
    simp only [Except.ok.injEq, exists_eq_left']
    exact ofTable_eq_ok_iff (Toml.distinct_of_read hread)

/-- What comes of a document: the settings that it describes, or else a fault of the document, as
TOML or as settings. -/
structure OfDocument (document : Text) (result : Except Fault Settings) : Prop where
  found_iff : (∃ found, result = .ok found) ↔ IsFit document
  found_eq_iff : ∀ found, result = .ok found ↔ Describes document found
  misfit_iff : (∃ shown, result = .error (.malformedDocument shown) ∨
    result = .error (.unfitDocument shown)) ↔ ¬ IsFit document

theorem Complaint.fault_cases (c : Complaint) (document : Text) : ∃ shown,
    c.fault document = .malformedDocument shown ∨ c.fault document = .unfitDocument shown := by
  obtain ⟨trouble, extent⟩ := c
  refine ⟨Toml.excerpt document extent trouble.message, ?_⟩
  cases trouble with
  | malformed problem => exact .inl rfl
  | outOfRange => exact .inl rfl
  | unknownKey name => exact .inr rfl
  | wrongKind field value => exact .inr rfl
  | negative n => exact .inr rfl

theorem ofDocument_of_ok (h : ofDocument document = .ok found) :
    OfDocument document (.ok found) := by
  have hfit : IsFit document := exists_ofDocument_iff.mp ⟨found, h⟩
  refine ⟨⟨fun _ => hfit, fun _ => ⟨found, rfl⟩⟩, ?_, ?_⟩
  · intro found'
    rw [← ofDocument_eq_ok_iff, h, Except.ok.injEq, Except.ok.injEq]
  · constructor
    · rintro ⟨shown, hresult | hresult⟩
      · cases hresult
      · cases hresult
    · intro hmisfit
      exact absurd hfit hmisfit

theorem ofDocument_of_error {c : Complaint} (h : ofDocument document = .error c) :
    OfDocument document (.error (c.fault document)) := by
  have hmisfit : ¬ IsFit document := by
    rw [← exists_ofDocument_iff, h]
    rintro ⟨found, hfound⟩
    cases hfound
  obtain ⟨shown, hfault⟩ := c.fault_cases document
  refine ⟨?_, ?_, fun _ => hmisfit, fun _ => ⟨shown, ?_⟩⟩
  · constructor
    · rintro ⟨found, hfound⟩
      cases hfound
    · intro hfit
      exact absurd hfit hmisfit
  · intro found
    rw [← ofDocument_eq_ok_iff, h]
    constructor
    · intro hfound
      cases hfound
    · intro hfound
      cases hfound
  · rwa [Except.error.injEq, Except.error.injEq]

/-! ## The settings in a file -/

variable {files : Files} {path : Text}

/-- What comes of a file that settings are looked for in. -/
structure FromFile (files : Files) (path : Text) (result : Except Fault Settings) : Prop where
  missing_iff : (∃ problem, result = .error (.settings problem)) ↔ files.has path = false
  unreadable_iff : (∃ p cause, result = .error (.unreadableFile p cause)) ↔
    files.has path = true ∧ ∀ document, files.text path ≠ .ok document
  read : ∀ document, files.text path = .ok document → OfDocument document result

theorem has_of_text (h : files.text path = .ok document) : files.has path = true := by
  unfold Files.has
  rw [Files.text_eq_ok_iff.mp h]

theorem load_file (files : Files) (path : Text) : load files (.file path) =
    if files.has path then readFile files path
    else .error (.settings ("Config file not found: ".toList ++ path)) :=
  rfl

theorem fromFile_of_missing (h : files.has path = false) :
    FromFile files path (load files (.file path)) := by
  have hload : load files (.file path) =
      .error (.settings ("Config file not found: ".toList ++ path)) := by
    rw [load_file, h]
    rfl
  rw [hload]
  refine ⟨⟨fun _ => h, fun _ => ⟨_, rfl⟩⟩, ?_, ?_⟩
  · simp [h]
  · intro document htext
    rw [has_of_text htext] at h
    cases h

theorem fromFile_of_unreadable {failure : ReadFailure} (hhas : files.has path = true)
    (htext : files.text path = .error failure) :
    FromFile files path (load files (.file path)) := by
  have hnone : ∀ document, files.text path ≠ .ok document := by
    intro document hok
    rw [htext] at hok
    cases hok
  have hload : load files (.file path) = .error (.unreadableFile path failure.message) := by
    rw [load_file, if_pos hhas]
    unfold readFile
    rw [htext]
  rw [hload]
  refine ⟨?_, ⟨fun _ => ⟨hhas, hnone⟩, fun _ => ⟨_, _, rfl⟩⟩, ?_⟩
  · simp [hhas]
  · intro document hok
    exact absurd hok (hnone document)

theorem fromFile_of_text (htext : files.text path = .ok document) :
    FromFile files path (load files (.file path)) := by
  have hhas := has_of_text htext
  have hload : load files (.file path) =
      (ofDocument document).mapError (·.fault document) := by
    rw [load_file, if_pos hhas]
    unfold readFile
    rw [htext]
  have honly : ∀ document', files.text path = .ok document' → document = document' := by
    intro document' htext'
    rw [htext] at htext'
    exact Except.ok.inj htext'
  cases hdocument : ofDocument document with
  | ok found =>
    rw [hload, hdocument, Except.mapError]
    refine ⟨by simp [hhas], by simp [htext], ?_⟩
    intro document' htext'
    exact honly document' htext' ▸ ofDocument_of_ok hdocument
  | error c =>
    rw [hload, hdocument, Except.mapError]
    obtain ⟨shown, hfault⟩ := c.fault_cases document
    refine ⟨?_, ?_, ?_⟩
    · rcases hfault with h | h <;> simp [h, hhas]
    · rcases hfault with h | h <;> simp [h, htext]
    · intro document' htext'
      exact honly document' htext' ▸ ofDocument_of_error hdocument

theorem fromFile_load (files : Files) (path : Text) :
    FromFile files path (load files (.file path)) := by
  cases hhas : files.has path with
  | false => exact fromFile_of_missing hhas
  | true =>
    cases htext : files.text path with
    | error failure => exact fromFile_of_unreadable hhas htext
    | ok document => exact fromFile_of_text htext

/-! ## The settings in the working directory -/

variable {directory : Text}

theorem load_usual_of_has (hdirectory : files.directory = some directory)
    (h : files.has (Files.join directory fileName) = true) :
    load files .usual = load files (.file (Files.join directory fileName)) := by
  rw [load_file, if_pos h]
  unfold load
  rw [hdirectory]
  exact if_pos h

theorem load_usual_of_missing (h : ∀ directory, files.directory = some directory →
    files.has (Files.join directory fileName) = false) : load files .usual = .ok {} := by
  unfold load
  cases hdirectory : files.directory with
  | none => rfl
  | some directory =>
    refine if_neg ?_
    rw [h directory hdirectory]
    exact Bool.false_ne_true

/-! ## Overrides -/

section Overrides

variable {α : Type} {view : Settings → α} {given? : Overrides → Option α}

/-- What a field is after overrides that go before each other, the last one first. -/
theorem view_foldl_override (h : ∀ s o, view (s.override o) = (given? o).getD (view s))
    (overrides : List Overrides) (s : Settings) : view (overrides.foldl Settings.override s) =
      (overrides.filterMap given?).getLast?.getD (view s) := by
  -- the last override decides, so the induction takes it off first
  induction overrides using List.reverseRecOn with
  | nil => rfl
  | append_singleton rest o ih =>
    rw [List.foldl_append, List.foldl_cons, List.foldl_nil, h, ih, List.filterMap_append]
    cases hgiven : given? o with
    | none => simp [hgiven]
    | some a => simp [hgiven]

end Overrides

/-! ## The settings of a run -/

/-- Settings are the default ones if files are ruled out. They come from the file that is named, if
one is, and else from the file in the working directory, if there is one, and otherwise are the
default ones as well. After overrides each field is the last that was given for it, and what it was
before if none was. -/
theorem settings_resolved (files : Files) (overrides : List Overrides) :
    (∀ named, load files (.wanted true named) = .ok ⟨"main".toList, 500⟩) ∧
    (∀ path, FromFile files path (load files (.wanted false (some path)))) ∧
    (∀ directory, files.directory = some directory →
      files.has (Files.join directory ".commit-guard.toml".toList) = true →
      FromFile files (Files.join directory ".commit-guard.toml".toList)
        (load files (.wanted false none))) ∧
    ((∀ directory, files.directory = some directory →
      files.has (Files.join directory ".commit-guard.toml".toList) = false) →
      load files (.wanted false none) = .ok ⟨"main".toList, 500⟩) ∧
    ∀ s : Settings,
      (overrides.foldl Settings.override s).baseRef =
        (overrides.filterMap (·.baseRef)).getLast?.getD s.baseRef ∧
      (overrides.foldl Settings.override s).limit =
        (overrides.filterMap (·.limit)).getLast?.getD s.limit := by
  refine ⟨fun _ => rfl, fromFile_load files, ?_, load_usual_of_missing, fun s => ⟨?_, ?_⟩⟩
  · intro directory hdirectory hhas
    show FromFile files _ (load files .usual)
    rw [load_usual_of_has hdirectory hhas]
    exact fromFile_load files _
  · exact view_foldl_override (fun _ _ => rfl) overrides s
  · exact view_foldl_override (fun _ _ => rfl) overrides s

/-- A working directory with a settings file in it, and another directory. -/
def workshop : Files :=
  .ofList (some "/work".toList)
    [("/work/.commit-guard.toml".toList, .ok (Text.bytes "limit = 7".toList)),
      ("/work/notes".toList, .error .isDirectory)]

theorem settings_resolved_workshop :
    load workshop (.wanted false none) = .ok ⟨"main".toList, 7⟩ ∧
    (∃ p cause, load workshop (.wanted false (some "/work/notes".toList)) =
      .error (.unreadableFile p cause)) ∧
    (∃ problem, load workshop (.wanted false (some "/work/none".toList)) =
      .error (.settings problem)) ∧
    ([⟨some "dev".toList, none⟩, ⟨none, some 3⟩, ⟨some "trunk".toList, none⟩].foldl
      Settings.override ⟨"main".toList, 7⟩).baseRef = "trunk".toList := by
  obtain ⟨-, hnamed, hlocal, -, hoverrides⟩ := settings_resolved workshop
    [⟨some "dev".toList, none⟩, ⟨none, some 3⟩, ⟨some "trunk".toList, none⟩]
  have hfound : (ofDocument "limit = 7".toList).toOption = some ⟨"main".toList, 7⟩ := by
    decide +kernel
  have hdescribes : Describes "limit = 7".toList ⟨"main".toList, 7⟩ := by
    rw [← ofDocument_eq_ok_iff]
    cases hdocument : ofDocument "limit = 7".toList with
    | error c =>
      rw [hdocument] at hfound
      cases hfound
    | ok found =>
      rw [hdocument] at hfound
      exact congrArg Except.ok (Option.some.inj hfound)
  have htext : workshop.text "/work/.commit-guard.toml".toList = .ok "limit = 7".toList :=
    Files.text_eq_ok_iff.mpr rfl
  refine ⟨?_, ?_, ?_, (hoverrides ⟨"main".toList, 7⟩).1⟩
  · exact (((hlocal "/work".toList rfl (by decide)).read _ htext).found_eq_iff _).mpr hdescribes
  · refine (hnamed "/work/notes".toList).unreadable_iff.mpr ⟨by decide, fun document hok => ?_⟩
    have hbytes := Files.text_eq_ok_iff.mp hok
    have hfailure : workshop.bytes "/work/notes".toList = .error .isDirectory := rfl
    rw [hfailure] at hbytes
    cases hbytes
  · exact (hnamed "/work/none".toList).missing_iff.mpr (by decide)

end CommitGate.Settings
