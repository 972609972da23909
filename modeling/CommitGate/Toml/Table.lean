import CommitGate.Toml.Value

/-!
# Tables

What a statement does to the tables of a document. A header opens a table, and a dotted key leads
through tables; both make the tables that they need on the way. A key gets its value only once, and
a table that has been written in full stays as it is.
-/

namespace CommitGate.Toml

namespace Entries

/-- The entry of a name. -/
def find? (entries : Entries) (name : Text) : Option (Label × Value) :=
  List.find? (fun e => e.1.name = name) entries

/-- Gives a name an entry, in place of the one it has. -/
def put (entries : Entries) (label : Label) (value : Value) : Entries :=
  if (entries.find? label.name).isSome then
    entries.map fun e => if e.1.name = label.name then (label, value) else e
  else entries ++ [(label, value)]

end Entries

/-- A table may be entered on the way to another one. A header passes through whatever is not
inline; a dotted key only through tables that no header has named, and the last of them has to be
its own: one that dotted keys have made. `way` is the origin of the tables that are made on the way,
and says which of the two is meant. -/
def passable (way : Origin) (isLast : Bool) (origin : Origin) : Bool :=
  if way = .dotted then origin = .dotted || (!isLast && origin = .implicit) else origin ≠ .inline

/-- Changes the table that keys lead to, making the tables that are missing on the way. Arrays of
tables are passed through by their latest, but the last table of a dotted key is none of them. -/
def descend (way : Origin) (change : Entries → Except Malformed Entries) :
    List Key → Entries → Except Malformed Entries
  | [], entries => change entries
  | k :: more, entries =>
    let taken : Except Malformed Entries := .error ⟨.duplicate, k.extent⟩
    match entries.find? k.name with
    | none =>
      (descend way change more []).map fun inner =>
        entries.put ⟨k.name, k.extent, k.extent⟩ (.table way inner)
    | some (label, .table origin inner) =>
      if passable way more.isEmpty origin then
        (descend way change more inner).map fun inner => entries.put label (.table origin inner)
      else taken
    | some (label, .tables earlier latest) =>
      if way = .dotted && more.isEmpty then taken
      else
        (descend way change more latest).map fun latest =>
          entries.put label (.tables earlier latest)
    | some _ => taken

/-- Adds a new key with its value. -/
def insertNew (k : Key) (value : Value) (extent : Extent) (entries : Entries) :
    Except Malformed Entries :=
  if (entries.find? k.name).isSome then .error ⟨.duplicate, k.extent⟩
  else .ok (entries.put ⟨k.name, k.extent, extent⟩ value)

/-- Gives a dotted key its value. -/
def assign (path : KeyPath) (value : Value) (extent : Extent) :
    Entries → Except Malformed Entries :=
  descend .dotted (insertNew path.last value extent) path.parents

/-- Opens the table of a header. A table that was only needed for another one is thereby named, and
its key stands in this header from now on. -/
def openTable (k : Key) (header : Extent) (entries : Entries) : Except Malformed Entries :=
  match entries.find? k.name with
  | none => .ok (entries.put ⟨k.name, k.extent, header⟩ (.table .header []))
  | some (_, .table .implicit inner) =>
    .ok (entries.put ⟨k.name, k.extent, header⟩ (.table .header inner))
  | some _ => .error ⟨.duplicate, k.extent⟩

/-- Opens a new table at the end of the array of tables of a header. -/
def openNext (k : Key) (header : Extent) (entries : Entries) : Except Malformed Entries :=
  match entries.find? k.name with
  | none => .ok (entries.put ⟨k.name, k.extent, header⟩ (.tables [] []))
  | some (label, .tables earlier latest) =>
    .ok (entries.put label (.tables (earlier ++ [latest]) []))
  | some _ => .error ⟨.duplicate, k.extent⟩

end CommitGate.Toml
