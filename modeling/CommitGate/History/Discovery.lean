import CommitGate.History.Repository

/-!
# Discovery

The repository of a directory is the one at the directory itself or at the nearest directory above.
What stands for a repository while it is looked for does not matter.
-/

namespace CommitGate

variable {α : Type}

/-- The repository found from a place, given the places of repositories. The names of the place are
taken from the last one to the first. -/
def discoverFrom (at? : List Text → Option α) : List Text → Option α
  | [] => at? []
  | name :: above =>
    match at? (name :: above).reverse with
    | some r => some r
    | none => discoverFrom at? above

/-- The repository of a directory. -/
def discover (at? : List Text → Option α) (place : List Text) : Except LookupFailure α :=
  match discoverFrom at? place.reverse with
  | some r => .ok r
  | none => .error .noRepository

end CommitGate
