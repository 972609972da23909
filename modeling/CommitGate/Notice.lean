import CommitGate.Report.Style

/-!
# Notices

The program speaks of its own troubles in notices: a heading with an icon, a message, and below it,
where there is something to say, the cause and a piece of advice.
-/

namespace CommitGate

/-- How bad a trouble is. -/
inductive Severity where
  /-- The program gives up. -/
  | error
  /-- The program goes on. -/
  | warning
  deriving DecidableEq, Repr

/-- The icon that stands before a heading. -/
def Severity.icon : Severity → Char
  | .error => '✖'
  | .warning => '⚠'

/-- The colour of a heading. -/
def Severity.color : Severity → Style
  | .error => .red
  | .warning => .yellow

/-- A message of the program about itself. -/
structure Notice where
  /-- How bad it is. -/
  severity : Severity
  /-- The kind of trouble. -/
  title : Text
  /-- What happened. -/
  message : Text
  /-- The cause, if the message does not give it. -/
  detail : Option Text := none
  /-- What the reader can do. -/
  advice : Option Text := none

namespace Notice

/-- A notice of an error of the given kind. -/
def ofError (title message : Text) (detail advice : Option Text) : Notice :=
  ⟨.error, title, message, detail, advice⟩

/-- A notice of a warning. -/
def ofWarning (message : Text) (detail advice : Option Text) : Notice :=
  ⟨.warning, "Warning".toList, message, detail, advice⟩

/-- The pieces of a notice. -/
def pieces (n : Notice) : List Piece :=
  [.styled [.bold, n.severity.color] (n.severity.icon :: ' ' :: n.title ++ [':']),
    .plain (' ' :: n.message), newline] ++
  (match n.detail with
    | none => []
    | some d => [.plain "  ".toList, .styled [.dim] ("× ".toList ++ d), newline]) ++
  match n.advice with
  | none => []
  | some a => [.plain "  ".toList, .styled [.cyan] "help:".toList, .plain (' ' :: a), newline]

/-- A notice as text, in colour or not. -/
def text (color : Bool) (n : Notice) : Text := paint color n.pieces

end Notice

end CommitGate
