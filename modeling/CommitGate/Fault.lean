import CommitGate.Text.Basic

/-!
# Faults

What keeps the program from doing its work. A fault has a message, a kind for the heading of the
notice, and a cause if the message does not give it.
-/

namespace CommitGate

/-- Why the program cannot do its work. -/
inductive Fault where
  /-- The settings cannot be had. -/
  | settings (problem : Text)
  /-- A file cannot be read. -/
  | unreadableFile (path cause : Text)
  /-- Reading or writing a stream fails. -/
  | stream (cause : Text)
  /-- The settings document cannot be read at all; the complaint shows the place. -/
  | malformedDocument (complaint : Text)
  /-- The settings document has a key or a value that does not fit; the complaint shows the
  place. -/
  | unfitDocument (complaint : Text)
  /-- A JSON document cannot be written. -/
  | document (cause : Text)
  /-- The repository does not give what is asked. -/
  | repository (problem : Text)
  deriving DecidableEq, Repr

namespace Fault

/-- What went wrong, in a sentence. -/
def message : Fault → Text
  | settings problem => "Configuration error: ".toList ++ problem
  | unreadableFile path _ => "Failed to read file: ".toList ++ path
  | stream cause => "IO error: ".toList ++ cause
  | malformedDocument complaint | unfitDocument complaint =>
    "TOML parse error: ".toList ++ complaint
  | document cause => "JSON serialization error: ".toList ++ cause
  | repository problem => "Git error: ".toList ++ problem

/-- The kind of trouble, for the heading of a notice. -/
def kind : Fault → Text
  | settings _ | malformedDocument _ | unfitDocument _ => "Config".toList
  | unreadableFile _ _ | stream _ => "IO".toList
  | document _ => "Output".toList
  | repository _ => "Git".toList

/-- The cause, where the message does not include it. -/
def detail? : Fault → Option Text
  | unreadableFile _ cause => some cause
  | _ => none

end Fault

end CommitGate
