import CommitGate.Diagnostic

/-!
# Line length

No line may have more than 72 characters. The highlight covers what is over the limit.
-/

namespace CommitGate.Policy

/-- The greatest number of characters on a line. -/
def lineLimit : Nat := 72

/-- The diagnostic for a line of `length` characters at the given row. -/
def lineTooLong (row length : Nat) : Diagnostic where
  description :=
    "Lines must not be over ".toList ++ Text.ofNat lineLimit ++ " characters long".toList
  code := some "LINE_TOO_LONG".toList
  location := some ⟨row, lineLimit, length⟩
  hint := some (if row = 0 then "subject line too long" else "body line too long").toList
  help := some <|
    if row = 0 then
      (Help.ofProse "Shorten this subject line.".toList).addProse
        "If necessary, move extra details in this long subject line to the body.".toList
    else Help.ofProse "Split this long line into two or more shorter lines.".toList

/-- A diagnostic for each line over the limit. -/
def checkLineLength (message : Text) : List Diagnostic :=
  message.lines.zipIdx.filterMap fun (line, row) =>
    if lineLimit < line.length then some (lineTooLong row line.length) else none

end CommitGate.Policy
