import CommitGate.Reporter

/-!
# Walking the history

A walk reviews commits from the head backwards. It ends at its limit, at the end of the history, at
the merge base unless it is a full walk, or at the first commit whose message violates the policy.
The limit is looked at before the history is asked, and the merge base before the message is
reviewed.
-/

namespace CommitGate

/-- A commit as the walk sees it. -/
structure Commit where
  /-- The name of the commit. -/
  hash : Text
  /-- The message of the commit. -/
  message : Text
  deriving DecidableEq, Repr

/-- A history as the walk sees it. -/
structure Source where
  /-- The commit so many steps behind the head, if the history goes back that far. -/
  commit : Nat → Option Commit
  /-- The hash of the merge base, if there is one. -/
  mergeBase : Option Text

/-- The range of a walk. -/
structure WalkOptions where
  /-- Whether the merge base is ignored. -/
  full : Bool := false
  /-- The greatest number of commits to review. -/
  limit : Nat

/-- How a walk ends. -/
inductive Outcome where
  /-- All reviewed commits conform to the policy. -/
  | clean (checked : Nat)
  /-- A commit violates the policy in so many places. -/
  | violations (commit : Text) (count : Nat)
  deriving DecidableEq, Repr

/-- The exit code of a walk. -/
def Outcome.exitCode : Outcome → Nat
  | .clean _ => 0
  | .violations _ count => exitCodeFor count

namespace Walk

/-- The end of a walk without violations. -/
def finish (r : Reporter) (checked : Nat) : Transcript Outcome :=
  (r.detail ("Checked ".toList ++ Text.count checked "commit".toList)).andThen fun _ =>
    (r.progress finishedPieces).andThen fun _ => .done (.clean checked)

/-- Walks on after `checked` commits, with `left` more allowed. -/
def walkOn (source : Source) (r : Reporter) (boundary : Option Text) :
    (left checked : Nat) → Transcript Outcome
  | 0, checked => finish r checked
  | left + 1, checked =>
    .step (.askCommit checked) <|
      match source.commit checked with
      | none => finish r checked
      | some commit =>
        if boundary = some commit.hash then finish r checked
        else
          (r.progress (checkingPieces commit.hash commit.message)).andThen fun _ =>
            let diagnostics := Policy.review commit.message
            if diagnostics = [] then walkOn source r boundary left (checked + 1)
            else
              (r.report ⟨some commit.hash, commit.message, diagnostics⟩).andThen fun _ =>
                .done (.violations commit.hash diagnostics.length)

/-- The line of detail about where a walk will end. -/
def boundaryDetail (limit : Nat) : Option Text → Text
  | some hash => "Stopping at merge-base ".toList ++ hash
  | none => "No merge-base found; checking up to ".toList ++ Text.ofNat limit ++ " commits".toList

end Walk

/-- Walks a history. -/
def walk (source : Source) (o : WalkOptions) (r : Reporter) : Transcript Outcome :=
  if o.full then
    (r.detail "Full mode: ignoring merge-base".toList).andThen fun _ =>
      Walk.walkOn source r none o.limit 0
  else
    .step .askMergeBase <|
      (r.detail (Walk.boundaryDetail o.limit source.mergeBase)).andThen fun _ =>
        Walk.walkOn source r source.mergeBase o.limit 0

end CommitGate
