import CommitGate.Transcript
import Mathlib.Data.List.Basic

/-!
# Transcripts: composition and delivery

A transcript is known by its steps, its result and what it writes. The lemmas below say what
composition does to these, and that two sinks which take everything hold exactly what the transcript
writes.
-/

namespace CommitGate

/-! ## Questions among steps -/

/-- The index of the commit that a step asks for. -/
def Step.askedCommit? : Step → Option Nat
  | .askCommit n => some n
  | _ => none

/-- Whether a step asks for the merge base. -/
def Step.asksMergeBase : Step → Bool
  | .askMergeBase => true
  | _ => false

/-- The indexes of the commits that were asked for, in order. -/
def commitsAsked (steps : List Step) : List Nat := steps.filterMap Step.askedCommit?

/-- How often the merge base was asked for. -/
def mergeBaseAsked (steps : List Step) : Nat := steps.countP Step.asksMergeBase

@[simp] theorem commitsAsked_nil : commitsAsked [] = [] := rfl

@[simp] theorem commitsAsked_append (ss ts : List Step) :
    commitsAsked (ss ++ ts) = commitsAsked ss ++ commitsAsked ts := List.filterMap_append

@[simp] theorem commitsAsked_ask (n : Nat) (ss : List Step) :
    commitsAsked (.askCommit n :: ss) = n :: commitsAsked ss := rfl

@[simp] theorem commitsAsked_askMergeBase (ss : List Step) :
    commitsAsked (.askMergeBase :: ss) = commitsAsked ss := rfl

@[simp] theorem commitsAsked_write (stream : Stream) (t : Text) (ss : List Step) :
    commitsAsked (.write stream t :: ss) = commitsAsked ss := rfl

@[simp] theorem mergeBaseAsked_nil : mergeBaseAsked [] = 0 := rfl

@[simp] theorem mergeBaseAsked_append (ss ts : List Step) :
    mergeBaseAsked (ss ++ ts) = mergeBaseAsked ss + mergeBaseAsked ts := List.countP_append

@[simp] theorem mergeBaseAsked_ask (n : Nat) (ss : List Step) :
    mergeBaseAsked (.askCommit n :: ss) = mergeBaseAsked ss := by
  simp [mergeBaseAsked, Step.asksMergeBase]

@[simp] theorem mergeBaseAsked_askMergeBase (ss : List Step) :
    mergeBaseAsked (.askMergeBase :: ss) = mergeBaseAsked ss + 1 := List.countP_cons_of_pos rfl

@[simp] theorem mergeBaseAsked_write (stream : Stream) (t : Text) (ss : List Step) :
    mergeBaseAsked (.write stream t :: ss) = mergeBaseAsked ss := by
  simp [mergeBaseAsked, Step.asksMergeBase]

/-! ## Composition -/

namespace Transcript

variable {α β : Type}

@[simp] theorem andThen_done (a : α) (next : α → Transcript β) :
    (done a).andThen next = next a := rfl

/-- Composition gives the result of the second transcript, unless the first one is refused. -/
@[simp] theorem result_andThen (t : Transcript α) (next : α → Transcript β) :
    (t.andThen next).result = t.result.bind fun a => (next a).result := by
  induction t with
  | done a => rfl
  | refused e => rfl
  | step s rest ih => exact ih

/-- What follows a transcript with a result comes after its steps. -/
theorem steps_andThen {t : Transcript α} {a : α} (h : t.result = .ok a)
    (next : α → Transcript β) : (t.andThen next).steps = t.steps ++ (next a).steps := by
  induction t with
  | done b => cases h; rfl
  | refused e => cases h
  | step s rest ih => exact congrArg (s :: ·) (ih h)

/-- Nothing follows a refused transcript. -/
theorem steps_andThen_of_refused {t : Transcript α} {e : LayoutError} (h : t.result = .error e)
    (next : α → Transcript β) : (t.andThen next).steps = t.steps := by
  induction t with
  | done b => cases h
  | refused e' => rfl
  | step s rest ih => exact congrArg (s :: ·) (ih h)

variable {γ : Type}

theorem andThen_assoc (t : Transcript α) (next : α → Transcript β) (last : β → Transcript γ) :
    (t.andThen next).andThen last = t.andThen fun a => (next a).andThen last := by
  induction t with
  | done a => rfl
  | refused e => rfl
  | step s rest ih => exact congrArg (step s) ih

/-- What follows a transcript with a result writes after it. -/
theorem written_andThen {t : Transcript α} {a : α} (h : t.result = .ok a)
    (next : α → Transcript β) (stream : Stream) :
    (t.andThen next).written stream = t.written stream ++ (next a).written stream := by
  induction t with
  | done b => cases h; rfl
  | refused e => cases h
  | step s rest ih =>
    cases s with
    | askMergeBase => exact ih h
    | askCommit n => exact ih h
    | write target x =>
      simp only [andThen, written, ih h]
      split_ifs
      · rw [List.append_assoc]
      · rfl

@[simp] theorem written_write (stream : Stream) (t : Text) :
    (write stream t).written stream = t := by
  simp [write, written]

/-- Changing the result of a transcript changes nothing that it writes. -/
theorem written_map (t : Transcript α) (f : α → β) (stream : Stream) :
    (t.andThen fun a => done (f a)).written stream = t.written stream := by
  induction t with
  | done a => rfl
  | refused e => rfl
  | step s rest ih => cases s <;> simp only [andThen, written, ih]

theorem result_map (t : Transcript α) (f : α → β) :
    (t.andThen fun a => done (f a)).result = t.result.map f := by
  rw [result_andThen]
  cases t.result <;> rfl

end Transcript

/-! ## Delivery without limits -/

/-- Sinks that take everything let a transcript run to its end, and then hold the bytes of all that
it writes. -/
theorem Transcript.deliver_unlimited {α : Type} (t : Transcript α) :
    t.deliver {} =
      ⟨t.steps, (t.written .error).bytes, (t.written .output).bytes,
        t.result.mapError .refused⟩ := by
  induction t with
  | done a => rfl
  | refused e => rfl
  | step s rest ih =>
    cases s with
    | askMergeBase => simp [deliver, ih, Delivery.afterStep, steps, written, result]
    | askCommit n => simp [deliver, ih, Delivery.afterStep, steps, written, result]
    | write stream x =>
      cases stream with
      | error =>
        simp [deliver, Room.of, Room.after, allFit, ih, Delivery.afterStep, Delivery.afterBytes,
          steps, written, result, Text.bytes_append]
      | output =>
        simp [deliver, Room.of, Room.after, allFit, ih, Delivery.afterStep, Delivery.afterBytes,
          steps, written, result, Text.bytes_append]

theorem Transcript.result_deliver_eq_ok_iff {α : Type} {t : Transcript α} {a : α} :
    (t.deliver {}).result = .ok a ↔ t.result = .ok a := by
  rw [deliver_unlimited]
  cases t.result <;> simp [Except.mapError]

end CommitGate
