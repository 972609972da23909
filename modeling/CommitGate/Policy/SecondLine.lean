import CommitGate.Diagnostic
import CommitGate.Text.Blank

/-!
# The second line

The line after the subject must be empty. A second line of blanks should be emptied, and a second
line with content should be moved down by an empty line. No other rule on blanks looks at this line.
-/

namespace CommitGate.Policy

/-- The row that belongs to this rule. -/
def secondRow : Nat := 1

/-- The diagnostic for a second line that is not empty. -/
def secondLineNotEmpty (subject line : Text) : Diagnostic where
  description := "There must be an empty line between the subject and the body".toList
  code := some "NON_EMPTY_SECOND_LINE".toList
  location := some ⟨secondRow, 0, line.length⟩
  hint := some <|
    if line.isAllBlank then "non-empty second line (these characters are whitespace)".toList
    else "non-empty second line".toList
  help := some <|
    if line.isAllBlank then Help.ofProse "Remove these extra whitespace characters.".toList
    else
      (Help.ofProse "Add an empty line between the subject and this line:".toList).addSuggestion
        (Text.joinLines [subject, [], line])

/-- At most one diagnostic, for the second line. -/
def checkSecondLine (message : Text) : List Diagnostic :=
  match message.lines with
  | subject :: line :: _ => if line = [] then [] else [secondLineNotEmpty subject line]
  | _ => []

end CommitGate.Policy
