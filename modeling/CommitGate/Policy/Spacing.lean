import CommitGate.Policy.SecondLine

/-!
# Blanks on a line

A line with content must neither start nor end with blanks, and a line without content must be
empty. The second line is left to its own rule.
-/

namespace CommitGate.Policy

/-- A diagnostic for blanks at one end of a line. -/
def untrimmed (row start stop : Nat) (hint help : Text) : Diagnostic where
  description := "Lines must not have leading or trailing whitespace".toList
  code := some "UNTRIMMED_LINE".toList
  location := some ⟨row, start, stop⟩
  hint := some hint
  help := some (Help.ofProse help)

/-- The diagnostic for blanks before the content of a line. -/
def leadingBlanks (row : Nat) (line : Text) : List Diagnostic :=
  let width := line.length - line.trimStart.length
  if 0 < width then
    [untrimmed row 0 width "leading whitespace".toList "Remove this leading whitespace".toList]
  else []

/-- The diagnostic for blanks after the content of a line. -/
def trailingBlanks (row : Nat) (line : Text) : List Diagnostic :=
  let kept := line.trimEnd.length
  if kept < line.length then
    [untrimmed row kept line.length "trailing whitespace".toList
      "Remove this trailing whitespace".toList]
  else []

/-- Diagnostics for lines whose content has blanks around it. -/
def checkMargins (message : Text) : List Diagnostic :=
  message.lines.zipIdx.flatMap fun (line, row) =>
    if row = secondRow ∨ line = [] ∨ line.isAllBlank then []
    else leadingBlanks row line ++ trailingBlanks row line

/-- The diagnostic for a line of blanks. -/
def blankLine (row : Nat) (line : Text) : Diagnostic where
  description := "Lines must not be entirely whitespace".toList
  code := some "EMPTY_LINE".toList
  location := some ⟨row, 0, line.length⟩
  hint := some "entirely whitespace".toList
  help := some (Help.ofProse "Remove this whitespace".toList)

/-- Diagnostics for lines that hold nothing but blanks. -/
def checkBlankLines (message : Text) : List Diagnostic :=
  message.lines.zipIdx.filterMap fun (line, row) =>
    if row ≠ secondRow ∧ line.isAllBlank then some (blankLine row line) else none

end CommitGate.Policy
