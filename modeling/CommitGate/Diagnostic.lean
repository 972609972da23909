import CommitGate.Text.Lines

/-!
# Diagnostics

A diagnostic is one violation of the message policy: what is wrong, where, and how to mend it.
-/

namespace CommitGate

/-- A highlighted stretch of one line of a message. Lines and columns count from zero, columns count
characters, and `stop` is the first column after the stretch. -/
structure Location where
  /-- The index of the line. -/
  line : Nat
  /-- The first highlighted column. -/
  start : Nat
  /-- The first column after the highlight. -/
  stop : Nat
  deriving DecidableEq, Repr

/-- One piece of a help. -/
inductive HelpPart where
  /-- Explanatory prose. -/
  | prose (t : Text)
  /-- A replacement to take over, set off from the prose by a gutter. -/
  | suggestion (t : Text)
  deriving DecidableEq, Repr

/-- Advice on mending a violation: pieces with a blank line between neighbours. -/
structure Help where
  /-- The pieces, in reading order. -/
  parts : List HelpPart
  deriving DecidableEq, Repr

/-- A violation of the policy. -/
structure Diagnostic where
  /-- What is wrong. -/
  description : Text
  /-- The stable name of the violated rule. -/
  code : Option Text := none
  /-- A short remark shown at the highlight. -/
  hint : Option Text := none
  /-- Where the violation is. -/
  location : Option Location := none
  /-- How to mend it. -/
  help : Option Help := none
  /-- Background on the rule. -/
  note : Option Text := none
  deriving DecidableEq, Repr

/-- The width of the margin that holds line labels and the gutter of suggestions. -/
def marginWidth : Nat := 8

/-- The lines of a suggestion, each behind a gutter that fills the margin. -/
def suggestionBlock (t : Text) : Text :=
  Text.joinLines (t.lines.map fun l => Text.alignRight marginWidth "| ".toList ++ l)

namespace Help

/-- A help that starts with prose. -/
def ofProse (t : Text) : Help := ⟨[.prose t]⟩

/-- Adds prose at the end. -/
def addProse (h : Help) (t : Text) : Help := ⟨h.parts ++ [.prose t]⟩

/-- Adds a suggestion at the end. -/
def addSuggestion (h : Help) (t : Text) : Help := ⟨h.parts ++ [.suggestion t]⟩

/-- The first suggestion of a help. -/
def suggestion? (h : Help) : Option Text :=
  h.parts.findSome? fun
    | .suggestion t => some t
    | .prose _ => none

/-- A help as plain text. -/
def plain (h : Help) : Text :=
  "\n\n".toList.intercalate (h.parts.map fun
    | .prose t => t
    | .suggestion t => suggestionBlock t)

end Help

end CommitGate
