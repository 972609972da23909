import CommitGate.Transcript
import CommitGate.Policy.Review

/-!
# Reporters

A reporter decides what of a review is shown and how. Progress is shown unless it is quiet, details
only if it is verbose and not quiet, and reports with diagnostics always. Text for people goes to
the error stream, JSON documents to the output stream.
-/

namespace CommitGate

/-- The form of reports. -/
inductive Format where
  /-- Text for people. -/
  | text
  /-- A JSON document. -/
  | json
  deriving DecidableEq, Repr

/-- The format with the given name, in upper or lower case. -/
def Format.ofName? (name : Text) : Option Format :=
  match Text.toLower name with
  | ['t', 'e', 'x', 't'] => some .text
  | ['j', 's', 'o', 'n'] => some .json
  | _ => none

/-- The complaint about a name that is not the name of a format. -/
def Format.unknown (name : Text) : Text := "Unknown output format: ".toList ++ name

/-- How reviews are shown. -/
structure Reporter where
  /-- The form of reports. -/
  format : Format := .text
  /-- Whether text is coloured. -/
  color : Bool := false
  /-- Whether progress is left out. -/
  quiet : Bool := false
  /-- How much detail is shown; zero for none. -/
  verbosity : Nat := 0

namespace Reporter

/-- Writes a line of progress. -/
def progress (r : Reporter) (pieces : List Piece) : Transcript Unit :=
  if r.quiet then .done () else .write .error (Text.line (paint r.color pieces))

/-- Writes a line of detail. -/
def detail (r : Reporter) (t : Text) : Transcript Unit :=
  if 0 < r.verbosity ∧ ¬ r.quiet then .write .error (Text.line t) else .done ()

/-- Writes a report, unless it has no diagnostics. -/
def report (r : Reporter) (report : Report) : Transcript Unit :=
  if report.diagnostics = [] then .done ()
  else
    match r.format with
    | .text =>
      match report.text r.color with
      | .ok t => .write .error t
      | .error e => .refused e
    | .json => .write .output (Text.line report.document)

end Reporter

/-! ## Exit codes -/

/-- The greatest exit code. -/
def maxExitCode : Nat := 255

/-- The exit code for a number of diagnostics: the number itself as far as exit codes go, so that it
is zero only if there are none. -/
def exitCodeFor (count : Nat) : Nat := min count maxExitCode

/-! ## A single message -/

/-- Reviews a message that is not a commit yet, and gives the number of diagnostics. -/
def reviewMessage (r : Reporter) (message : Text) : Transcript Nat :=
  let diagnostics := Policy.review message
  (r.report { message, diagnostics }).andThen fun _ =>
    (if diagnostics = [] then r.progress finishedPieces else .done ()).andThen fun _ =>
      .done diagnostics.length

end CommitGate
