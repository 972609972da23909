import CommitGate.Diagnostic

/-!
# The end of the subject

The subject must not end in sentence punctuation. The suggestion is the subject without its last
character, which may again end in punctuation.
-/

namespace CommitGate.Policy

/-- The characters that a subject must not end in. -/
def endings : List Char := ['.', ',', '!', '?', ':', ';']

/-- The diagnostic for a subject that ends in the given character. -/
def badEnding (subject : Text) (ending : Char) : Diagnostic where
  description := "Subject must not end in a \"".toList ++ ending :: "\" character".toList
  code := some "INVALID_ENDING_PUNCTUATION".toList
  location := some ⟨0, subject.length - 1, subject.length⟩
  hint := some ("ends in a \"".toList ++ [ending, '"'])
  help := some <|
    ((Help.ofProse "Remove this character:".toList).addSuggestion subject.dropLast).addProse
      ("Alternatively, if this is part of a code snippet, ".toList ++
        "surround the snippet with quotes or \"\x60\".".toList)

/-- At most one diagnostic, for the last character of the subject. -/
def checkEnding (message : Text) : List Diagnostic :=
  match message.subject? with
  | none => []
  | some subject =>
    match subject.getLast? with
    | some ending => if ending ∈ endings then [badEnding subject ending] else []
    | none => []

end CommitGate.Policy
