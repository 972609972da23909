import CommitGate.Binary64
import CommitGate.Toml.Token

/-!
# TOML values

The values of a document. A table keeps its entries in the order they were written and remembers for
each where its key and its value stand, so that a complaint can show the place. How a table came to
be is part of it, because that decides what later statements may add.
-/

namespace CommitGate.Toml

/-- How a table came to be. -/
inductive Origin where
  /-- Written in curly brackets; nothing can be added. -/
  | inline
  /-- Named by a header. -/
  | header
  /-- Needed for the table that a header names. -/
  | implicit
  /-- Needed for a dotted key. -/
  | dotted
  deriving DecidableEq, Repr

/-- A key where it is used. -/
structure Key where
  /-- Its name, without quotes. -/
  name : Text
  /-- Where it stands. -/
  extent : Extent
  deriving DecidableEq, Repr

/-- A dotted key: the tables it goes through, and the key in the last of them. -/
structure KeyPath where
  /-- The keys of the tables, outermost first. -/
  parents : List Key
  /-- The key proper. -/
  last : Key
  deriving DecidableEq, Repr

/-- The heading of a table entry. -/
structure Label where
  /-- The name of the key. -/
  name : Text
  /-- Where the key stands. -/
  key : Extent
  /-- Where the value stands. -/
  value : Extent
  deriving DecidableEq, Repr

/-- A value of a document. -/
inductive Value where
  /-- A string. -/
  | string (content : Text)
  /-- An integer of any size, unless it is written with other characters than digits. -/
  | integer (value : Option Int)
  /-- A floating-point number, unless it is too large. -/
  | float (value : Option Binary64)
  /-- A boolean. -/
  | boolean (value : Bool)
  /-- A date, a time, or both, as written. -/
  | moment (written : Text)
  /-- An array in square brackets. -/
  | array (elements : List Value)
  /-- An array of tables that headers add to; it has a latest one. -/
  | tables (earlier : List (List (Label × Value))) (latest : List (Label × Value))
  /-- A table. -/
  | table (origin : Origin) (entries : List (Label × Value))

/-- The entries of a table, in the order they were written. -/
abbrev Entries := List (Label × Value)

end CommitGate.Toml
