import CommitGate.Text.Basic

/-!
# Settings

How far a walk goes when the command line does not say: the reference that marks the shared history,
and the greatest number of commits.
-/

namespace CommitGate

/-- The settings of a walk. -/
structure Settings where
  /-- The reference whose history is shared. -/
  baseRef : Text := "main".toList
  /-- The greatest number of commits to review. -/
  limit : Nat := 500
  deriving DecidableEq, Repr

/-- Settings given elsewhere, which go before. -/
structure Overrides where
  /-- The reference, if it is given. -/
  baseRef : Option Text := none
  /-- The limit, if it is given. -/
  limit : Option Nat := none

/-- Settings with what is given elsewhere put in their place, each for itself. -/
def Settings.override (s : Settings) (o : Overrides) : Settings where
  baseRef := o.baseRef.getD s.baseRef
  limit := o.limit.getD s.limit

end CommitGate
