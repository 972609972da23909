import CommitGate.Proofs.TableKeys
import CommitGate.Proofs.Utf8
import CommitGate.Settings.Load
import Mathlib.Data.List.Basic

/-!
# Where settings come from

Settings that are loaded are those of the one file that is consulted, or the default ones if there
is none. Of the file, each field has the value of an entry with its key, and its default if there is
no such entry. A document with any other key gives no settings.
-/

namespace CommitGate.Settings

variable {s s' found : Settings} {entries entries' : Toml.Entries}
  {entry : Toml.Label × Toml.Value}

/-! ## The settings in a table -/

/-- A value that an entry with the key of the field has, or the default if there is no such entry.
-/
def Reads {α : Type} (entries : Toml.Entries) (field : Field) (written : α → Toml.Value)
    (default value : α) : Prop :=
  (∃ e ∈ entries, e.1.name = field.key ∧ e.2 = written value) ∨
    (∀ e ∈ entries, e.1.name ≠ field.key) ∧ value = default

/-- Settings that say what the entries of a table say, and the default where these say nothing. -/
structure Gives (entries : Toml.Entries) (found : Settings) : Prop where
  known : ∀ e ∈ entries, ∃ field : Field, e.1.name = field.key
  baseRef : Reads entries .baseRef .string "main".toList found.baseRef
  limit : Reads entries .limit (fun n : Nat => .integer (some n)) 500 found.limit
  limit_le : found.limit ≤ maxLimit

section Reads

variable {α : Type} {field : Field} {written : α → Toml.Value} {default value : α}

theorem Reads.concat (h : entry.1.name = field.key) (hvalue : entry.2 = written value) :
    Reads (entries ++ [entry]) field written default value :=
  .inl ⟨entry, List.mem_append_right _ List.mem_cons_self, h, hvalue⟩

theorem Reads.concat_of_ne (hreads : Reads entries field written default value)
    (h : entry.1.name ≠ field.key) : Reads (entries ++ [entry]) field written default value := by
  rcases hreads with ⟨e, he, hkey, hvalue⟩ | ⟨hnone, hdefault⟩
  · exact .inl ⟨e, List.mem_append_left _ he, hkey, hvalue⟩
  · refine .inr ⟨fun e he => ?_, hdefault⟩
    rcases List.mem_append.mp he with he | he
    · exact hnone e he
    · rwa [List.mem_singleton.mp he]

theorem Reads.congr (h : ∀ e, e ∈ entries ↔ e ∈ entries')
    (hreads : Reads entries field written default value) :
    Reads entries' field written default value := by
  simpa only [Reads, h] using hreads

end Reads

theorem Gives.congr (h : ∀ e, e ∈ entries ↔ e ∈ entries') (hgives : Gives entries s) :
    Gives entries' s where
  known e he := hgives.known e ((h e).mpr he)
  baseRef := hgives.baseRef.congr h
  limit := hgives.limit.congr h
  limit_le := hgives.limit_le

theorem gives_nil : Gives [] {} where
  known _ he := nomatch he
  baseRef := .inr ⟨(fun _ he => nomatch he), rfl⟩
  limit := .inr ⟨(fun _ he => nomatch he), rfl⟩
  limit_le := by decide

theorem ofKey?_eq_some_iff {name : Text} {field : Field} :
    Field.ofKey? name = some field ↔ name = field.key := by
  constructor
  · intro h
    have hkey := List.find?_some h
    exact (of_decide_eq_true hkey).symm
  · rintro rfl
    cases field <;> decide

/-- A field is set to a string or to a number of commits, as it wants, and to nothing else. -/
theorem set_eq_ok_iff {field : Field} {value : Toml.Value} : s.set field value = .ok s' ↔
    (field = .baseRef ∧ ∃ content, value = .string content ∧ s' = { s with baseRef := content }) ∨
      (field = .limit ∧ ∃ n : Nat, value = .integer (some n) ∧ n ≤ maxLimit ∧
        s' = { s with limit := n }) := by
  constructor
  · intro h
    unfold set at h
    split_ifs at h with hrange
    split at h
    next content =>
      cases h
      exact .inl ⟨rfl, content, rfl, rfl⟩
    next n _ =>
      split_ifs at h with hfits hnegative
      cases h
      obtain ⟨k, rfl⟩ := Int.eq_ofNat_of_zero_le hfits.1
      exact .inr ⟨rfl, k, rfl, Int.ofNat_le.mp hfits.2, rfl⟩
    next => cases h
  · rintro (⟨rfl, content, rfl, rfl⟩ | ⟨rfl, n, rfl, hle, rfl⟩)
    · rfl
    · have hfits : (0 : Int) ≤ n ∧ (n : Int) ≤ maxLimit :=
        ⟨Int.natCast_nonneg n, Int.ofNat_le.mpr hle⟩
      have hlow : -twoTo 127 < 0 := by decide
      have hhigh : (maxLimit : Int) < twoTo 128 := by decide
      have hrange : isOutOfRange (.integer (some n)) = false := by
        unfold isOutOfRange
        rw [Bool.or_eq_false_iff, decide_eq_false_iff_not, decide_eq_false_iff_not]
        omega
      unfold set
      rw [if_neg (by rw [hrange]; exact Bool.false_ne_true)]
      dsimp only
      rw [if_pos hfits]
      rfl

/-- An entry is carried over just if its key is the key of a field and its value fits the field. -/
theorem addEntry_eq_ok_iff : s.addEntry entry = .ok s' ↔
    ∃ field : Field, entry.1.name = field.key ∧ s.set field entry.2 = .ok s' := by
  unfold addEntry
  cases hfield : Field.ofKey? entry.1.name with
  | none =>
    constructor
    · intro h
      cases h
    · rintro ⟨field, hkey, -⟩
      rw [ofKey?_eq_some_iff.mpr hkey] at hfield
      cases hfield
  | some field =>
    have hkey : ∀ field' : Field, entry.1.name = field'.key ↔ field = field' := by
      intro field'
      rw [← ofKey?_eq_some_iff, hfield, Option.some.injEq]
    have hset : (s.set field entry.2).mapError (Complaint.mk · entry.1.value) = .ok s' ↔
        s.set field entry.2 = .ok s' := by
      cases s.set field entry.2 with
      | error e => exact ⟨nofun, nofun⟩
      | ok found => rw [Except.mapError, Except.ok.injEq, Except.ok.injEq]
    simp only [hkey, exists_eq_left', hset]

/-- Carrying an entry over sets the field of its key and leaves the other one as it is. -/
theorem Gives.concat (hgives : Gives entries s) (h : s.addEntry entry = .ok s') :
    Gives (entries ++ [entry]) s' := by
  obtain ⟨field, hkey, hset⟩ := addEntry_eq_ok_iff.mp h
  have hknown : ∀ e ∈ entries ++ [entry], ∃ field : Field, e.1.name = field.key := by
    intro e he
    rcases List.mem_append.mp he with he | he
    · exact hgives.known e he
    · exact ⟨field, by rwa [List.mem_singleton.mp he]⟩
  have hkeys : Field.baseRef.key ≠ Field.limit.key := by decide
  rcases set_eq_ok_iff.mp hset with ⟨rfl, content, hvalue, rfl⟩ | ⟨rfl, n, hvalue, hle, rfl⟩
  · exact ⟨hknown, .concat hkey hvalue, hgives.limit.concat_of_ne (hkey ▸ hkeys),
      hgives.limit_le⟩
  · exact ⟨hknown, hgives.baseRef.concat_of_ne (hkey ▸ hkeys.symm), .concat hkey hvalue, hle⟩

/-- Carrying entries over, one after the other, gives the settings that all of them say. -/
theorem Gives.append (hgives : Gives entries s)
    (h : entries'.foldlM addEntry s = .ok found) : Gives (entries ++ entries') found := by
  induction entries' generalizing entries s with
  | nil =>
    cases h
    rwa [List.append_nil]
  | cons entry rest ih =>
    rw [List.foldlM_cons] at h
    obtain ⟨s', hadded, hmore⟩ := bind_eq_ok_iff.mp h
    have hrest := ih (hgives.concat hadded) hmore
    rwa [List.append_assoc, List.singleton_append] at hrest

theorem gives_of_ofTable (h : ofTable entries = .ok found) : Gives entries found :=
  (gives_nil.append h).congr fun _ => List.mem_mergeSort

/-! ## The file that is consulted -/

/-- The file that a place leads to, if settings are to come from a file at all. -/
def consulted? (files : Files) : Place → Option Text
  | .nowhere => none
  | .usual => (files.directory.map (Files.join · fileName)).filter files.has
  | .file path => some path

/-- Settings that are the default ones if no file is consulted, and else are given by the table that
the text of the file describes. -/
inductive Found (files : Files) (place : Place) (found : Settings) : Prop where
  | default (hplace : consulted? files place = none) (h : found = ⟨"main".toList, 500⟩)
  | file (path document : Text) (entries : Toml.Entries)
      (hplace : consulted? files place = some path) (htext : files.bytes path = .ok document.bytes)
      (hread : Toml.read document = .ok entries) (h : Gives entries found)

variable {files : Files} {path : Text}

theorem found_of_readFile {place : Place} (hplace : consulted? files place = some path)
    (h : readFile files path = .ok found) : Found files place found := by
  unfold readFile at h
  split at h
  next => cases h
  next document htext =>
    unfold ofDocument at h
    split at h
    next => cases h
    next entries hread =>
      cases htable : ofTable entries with
      | error c => rw [htable] at h; cases h
      | ok s =>
        rw [htable] at h
        cases h
        exact .file path document entries hplace (Files.text_eq_ok_iff.mp htext) hread
          (gives_of_ofTable htable)

theorem found_of_load {place : Place} (h : load files place = .ok found) :
    Found files place found := by
  unfold load at h
  split at h
  next =>
    cases h
    exact .default rfl rfl
  next =>
    split at h
    next hdirectory =>
      cases h
      exact .default (by rw [consulted?, hdirectory]; rfl) rfl
    next directory hdirectory =>
      dsimp only at h
      split_ifs at h with hhas
      · refine found_of_readFile ?_ h
        rw [consulted?, hdirectory, Option.map_some, Option.filter_some, if_pos hhas]
      · cases h
        refine .default ?_ rfl
        rw [consulted?, hdirectory, Option.map_some, Option.filter_some, if_neg hhas]
  next path =>
    split_ifs at h with hhas
    exact found_of_readFile rfl h

end CommitGate.Settings
