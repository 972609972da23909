import CommitGate.Policy.LineLength
import CommitGate.Policy.Ending
import CommitGate.Policy.Casing
import CommitGate.Policy.Spacing

/-!
# The review of a message

The policy is a fixed sequence of rules. A rule reads a message and gives its diagnostics; the
review of a message gives those of all rules, in the order of the rules.
-/

namespace CommitGate.Policy

/-- The rules of the policy. -/
inductive Rule where
  /-- Lines have at most 72 characters. -/
  | lineLength
  /-- The subject does not end in punctuation. -/
  | ending
  /-- The second line is empty. -/
  | secondLine
  /-- The subject is in sentence case. -/
  | casing
  /-- Lines with content have no blanks around it. -/
  | margins
  /-- Lines without content are empty. -/
  | blankLines
  deriving DecidableEq, Repr

namespace Rule

/-- All rules, in the order in which their diagnostics are given. -/
def all : List Rule := [.lineLength, .ending, .secondLine, .casing, .margins, .blankLines]

/-- The diagnostics of one rule. -/
def check : Rule → Text → List Diagnostic
  | .lineLength => checkLineLength
  | .ending => checkEnding
  | .secondLine => checkSecondLine
  | .casing => checkCasing
  | .margins => checkMargins
  | .blankLines => checkBlankLines

end Rule

/-- The diagnostics of all rules. -/
def review (message : Text) : List Diagnostic := Rule.all.flatMap (·.check message)

end CommitGate.Policy
