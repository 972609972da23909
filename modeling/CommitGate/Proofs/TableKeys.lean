import CommitGate.Toml.Document
import Mathlib.Data.List.Nodup

/-!
# The keys of a table

A key gets its value only once. Every statement of a document leaves the table of the document with
distinct keys, so that in the table that a document describes a key has one value at most.
-/

namespace CommitGate

/-- A computation goes through just if its first part does and the rest does on what that gave. -/
theorem bind_eq_ok_iff {ε α β : Type} {x : Except ε α} {f : α → Except ε β} {b : β} :
    (x >>= f) = .ok b ↔ ∃ a, x = .ok a ∧ f a = .ok b := by
  constructor
  · intro h
    cases x with
    | error e => cases h
    | ok a => exact ⟨a, rfl, h⟩
  · rintro ⟨a, rfl, h⟩
    exact h

namespace Toml

variable {entries entries' : Entries}

/-- No two entries have the same key. -/
def Entries.Distinct (entries : Entries) : Prop := (entries.map (·.1.name)).Nodup

/-- A change of a table that takes distinct keys to distinct keys. -/
def KeepsDistinct (change : Entries → Except Malformed Entries) : Prop :=
  ∀ entries entries', entries.Distinct → change entries = .ok entries' → entries'.Distinct

namespace Entries

theorem isSome_find?_iff {name : Text} :
    (entries.find? name).isSome = true ↔ name ∈ entries.map (·.1.name) := by
  unfold find?
  rw [List.find?_isSome, List.mem_map]
  simp only [decide_eq_true_eq]

theorem Distinct.put (h : entries.Distinct) (label : Label) (value : Value) :
    (entries.put label value).Distinct := by
  unfold Entries.put
  split_ifs with htaken
  · have hnames : (entries.map fun e => if e.1.name = label.name then (label, value) else e).map
        (·.1.name) = entries.map (·.1.name) := by
      rw [List.map_map]
      refine List.map_congr_left fun e _ => ?_
      dsimp only [Function.comp_apply]
      split_ifs with hname
      · exact hname.symm
      · rfl
    unfold Distinct
    rw [hnames]
    exact h
  · unfold Distinct
    rw [List.map_append, List.map_singleton, List.nodup_append_comm, List.singleton_append,
      List.nodup_cons, ← isSome_find?_iff]
    exact ⟨htaken, h⟩

/-- Two entries with the same key are one. -/
theorem Distinct.eq_of_name_eq (h : entries.Distinct) {e e' : Label × Value} (he : e ∈ entries)
    (he' : e' ∈ entries) (hname : e.1.name = e'.1.name) : e = e' :=
  List.inj_on_of_nodup_map h he he' hname

end Entries

/-! ## One statement -/

theorem keepsDistinct_insertNew (k : Key) (value : Value) (extent : Extent) :
    KeepsDistinct (insertNew k value extent) := by
  intro entries entries' h hok
  unfold insertNew at hok
  split_ifs at hok
  cases hok
  exact h.put _ value

theorem keepsDistinct_openTable (k : Key) (header : Extent) :
    KeepsDistinct (openTable k header) := by
  intro entries entries' h hok
  unfold openTable at hok
  split at hok
  · cases hok
    exact h.put _ _
  · cases hok
    exact h.put _ _
  · cases hok

theorem keepsDistinct_openNext (k : Key) (header : Extent) : KeepsDistinct (openNext k header) := by
  intro entries entries' h hok
  unfold openNext at hok
  split at hok
  · cases hok
    exact h.put _ _
  · cases hok
    exact h.put _ _
  · cases hok

/-- A table that is changed further in gets back a changed entry under the key that it had. -/
theorem distinct_of_map_put {inner : Except Malformed Entries} {label : Label}
    {value : Entries → Value} (h : entries.Distinct)
    (hok : (inner.map fun changed => entries.put label (value changed)) = .ok entries') :
    entries'.Distinct := by
  cases inner with
  | error e => cases hok
  | ok changed =>
    cases hok
    exact h.put label (value changed)

theorem keepsDistinct_descend {change : Entries → Except Malformed Entries} (way : Origin)
    (hchange : KeepsDistinct change) (keys : List Key) :
    KeepsDistinct (descend way change keys) := by
  intro entries entries' h hok
  cases keys with
  | nil => exact hchange entries entries' h hok
  | cons k more =>
    -- the change is made further in; out here one entry is put, whatever the inner table became
    unfold descend at hok
    dsimp only at hok
    split at hok
    · exact distinct_of_map_put h hok
    · split_ifs at hok
      exact distinct_of_map_put h hok
    · split_ifs at hok
      exact distinct_of_map_put h hok
    · cases hok

theorem keepsDistinct_assign (path : KeyPath) (value : Value) (extent : Extent) :
    KeepsDistinct (assign path value extent) :=
  keepsDistinct_descend .dotted (keepsDistinct_insertNew path.last value extent) path.parents

/-- A statement leaves the keys of the document distinct. -/
theorem Draft.distinct_of_apply {d d' : Draft} {s : Statement} (h : d.root.Distinct)
    (hok : d.apply s = .ok d') : d'.root.Distinct := by
  cases s with
  | table path extent =>
    have hopen := keepsDistinct_openTable path.last extent
    obtain ⟨root, hroot, hdraft⟩ := bind_eq_ok_iff.mp hok
    cases hdraft
    exact keepsDistinct_descend .implicit hopen path.parents d.root root h hroot
  | next path extent =>
    have hopen := keepsDistinct_openNext path.last extent
    obtain ⟨root, hroot, hdraft⟩ := bind_eq_ok_iff.mp hok
    cases hdraft
    exact keepsDistinct_descend .implicit hopen path.parents d.root root h hroot
  | assignment path value extent =>
    have hassign := keepsDistinct_assign path value extent
    obtain ⟨root, hroot, hdraft⟩ := bind_eq_ok_iff.mp hok
    cases hdraft
    exact keepsDistinct_descend .implicit hassign d.header d.root root h hroot

/-! ## A whole document -/

theorem Draft.distinct_of_foldlM {ss : List Statement} {d d' : Draft} (h : d.root.Distinct)
    (hok : ss.foldlM Draft.apply d = .ok d') : d'.root.Distinct := by
  induction ss generalizing d with
  | nil =>
    cases hok
    exact h
  | cons s rest ih =>
    rw [List.foldlM_cons] at hok
    obtain ⟨next, hstep, hrest⟩ := bind_eq_ok_iff.mp hok
    exact ih (distinct_of_apply h hstep) hrest

/-- The table that a document describes has distinct keys. -/
theorem distinct_of_read {document : Text} (h : read document = .ok entries) :
    entries.Distinct := by
  have hstart : (Draft.mk [] []).root.Distinct := List.nodup_nil
  obtain ⟨ss, -, hfold⟩ := bind_eq_ok_iff.mp h
  obtain ⟨draft, hdraft, hentries⟩ := bind_eq_ok_iff.mp hfold
  cases hentries
  exact Draft.distinct_of_foldlM hstart hdraft

end Toml

end CommitGate
