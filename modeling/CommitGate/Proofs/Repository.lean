import CommitGate.History.Repository
import CommitGate.Proofs.Graph
import Mathlib.Data.List.TakeWhile

/-!
# The history of the head

The revision `HEAD~n` is the commit `n` first parents behind the head, so that the history that a
walk sees is the first-parent line of the commit at the head.
-/

namespace CommitGate

/-! ## Reading `HEAD` and `HEAD~n` -/

namespace Revision

theorem takeWhile_isDigit_ofNat (n : Nat) :
    (Text.ofNat n).takeWhile Char.isDigit = Text.ofNat n :=
  List.takeWhile_eq_self_iff.mpr fun _ hc =>
    Nat.isDigit_of_mem_toDigits (by decide) (by decide) hc

/-- A numeral is read as its number. -/
theorem countOf_ofNat (n : Nat) : countOf (Text.ofNat n) = n := by
  unfold countOf Text.ofNat
  rw [if_neg Nat.toDigits_ne_nil, ← Nat.ofDigitChars_eq_foldl, Nat.ofDigitChars_ten_toDigits]

theorem moves?_ancestor (n : Nat) : moves? ('~' :: Text.ofNat n) = some [.ancestor n] := by
  rw [moves?]
  · simp [move?, takeWhile_isDigit_ofNat, countOf_ofNat, moves?]
  · simp
  · simp

theorem parse?_head : parse? "HEAD".toList = some ⟨"HEAD".toList, []⟩ := by
  simp [parse?, moves?, isPlainName]

theorem parse?_ancestor (n : Nat) :
    parse? ("HEAD~".toList ++ Text.ofNat n) = some ⟨"HEAD".toList, [.ancestor n]⟩ := by
  simp [parse?, moves?_ancestor, isPlainName]

end Revision

namespace Repository

variable {r : Repository} {a b m : Nat}

/-- The commit so many first parents behind the head. A head that is a tag has no ancestors. -/
def line (r : Repository) (n : Nat) : Option Nat :=
  match r.head? with
  | some (.commit a) => r.graph.back? n a
  | _ => none

/-- The line of the head is the first-parent line of the commit at the head. -/
theorem back?_of_line (ha : r.commitOf "HEAD".toList = .ok a) {n c : Nat}
    (h : r.line n = some c) : r.graph.back? n a = some c := by
  unfold line at h
  split at h
  next a' hhead =>
    have heq : r.commitOf "HEAD".toList = .ok a' := by
      unfold commitOf
      rw [Revision.parse?_head]
      simp [object?, named?, hhead, Object.untagged]
    rw [heq] at ha
    cases ha
    exact h
  next => exact absurd h (by simp)

/-- The revision `HEAD~n` leads to the commit on the line of the head. -/
theorem commitOf_ancestor (r : Repository) (n : Nat) :
    (r.commitOf ("HEAD~".toList ++ Text.ofNat n)).toOption = r.line n := by
  unfold commitOf line
  rw [Revision.parse?_ancestor]
  cases hhead : r.head? with
  | none => simp [object?, named?, hhead, Except.toOption]
  | some o =>
    cases o with
    | commit a =>
      cases hback : r.graph.back? n a with
      | none => simp [object?, named?, hhead, move?, hback, Except.toOption]
      | some c => simp [object?, named?, hhead, move?, hback, Object.untagged, Except.toOption]
    | tag target => simp [object?, named?, hhead, move?, Except.toOption]
    | tree => simp [object?, named?, hhead, move?, Except.toOption]
    | blob => simp [object?, named?, hhead, move?, Except.toOption]

/-- A walk sees the commits on the line of the head. -/
theorem source_commit (r : Repository) (base : Text) (n : Nat) :
    (r.source base).commit n = (r.line n).map r.commitAt := by
  rw [← commitOf_ancestor]
  show ((r.commitOf ("HEAD~".toList ++ Text.ofNat n)).map r.commitAt).toOption = _
  cases r.commitOf ("HEAD~".toList ++ Text.ofNat n) <;> rfl

/-- The boundary of a walk is the hash of the merge base of the head and the base, if they have
one. -/
theorem source_mergeBase_eq {base : Text} (ha : r.commitOf "HEAD".toList = .ok a)
    (hb : r.commitOf base = .ok b) :
    (r.source base).mergeBase = (r.graph.mergeBase? a b).map fun m => (r.commitAt m).hash := by
  show (r.mergeBaseWith base).toOption = _
  simp only [mergeBaseWith, ha, hb, Except.bind, bind]
  cases r.graph.mergeBase? a b with
  | none => rfl
  | some m => rfl

theorem source_mergeBase {base : Text} (ha : r.commitOf "HEAD".toList = .ok a)
    (hb : r.commitOf base = .ok b) (hm : r.graph.mergeBase? a b = some m) :
    (r.source base).mergeBase = some (r.commitAt m).hash := by
  rw [source_mergeBase_eq ha hb, hm]
  rfl

end Repository

end CommitGate
