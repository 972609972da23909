import CommitGate.Report.Layout

/-!
# Transcripts

What the program does to the outside is recorded step by step: the questions it asks the history and
the texts it writes, each to one of two streams. The record is a value, and running it is a separate
matter. A sink takes bytes up to its capacity; a text that does not fit leaves the bytes that do,
and the run stops there.
-/

namespace CommitGate

/-- Where a text goes. -/
inductive Stream where
  /-- Progress and reports for people. -/
  | error
  /-- Documents for programs. -/
  | output
  deriving DecidableEq, Repr

/-- A single thing done to the outside. -/
inductive Step where
  /-- The history was asked for the merge base. -/
  | askMergeBase
  /-- The history was asked for the commit so many steps behind the head. -/
  | askCommit (stepsBack : Nat)
  /-- A text was written. -/
  | write (stream : Stream) (t : Text)

/-- A record of steps that ends with a result, or with a report that cannot be laid out. -/
inductive Transcript (α : Type) where
  /-- The end, with a result. -/
  | done (result : α)
  /-- The end, because a report cannot be laid out. -/
  | refused (e : LayoutError)
  /-- One step, and what follows it. -/
  | step (s : Step) (rest : Transcript α)

namespace Transcript

variable {α β : Type}

/-- A transcript followed by what its result leads to. -/
def andThen : Transcript α → (α → Transcript β) → Transcript β
  | done a, next => next a
  | refused e, _ => refused e
  | step s rest, next => step s (rest.andThen next)

/-- Writes one text. -/
def write (stream : Stream) (t : Text) : Transcript Unit := step (.write stream t) (done ())

/-- The steps of a transcript, in order. -/
def steps : Transcript α → List Step
  | done _ => []
  | refused _ => []
  | step s rest => s :: rest.steps

/-- The result of a transcript, when nothing stops it. -/
def result : Transcript α → Except LayoutError α
  | done a => .ok a
  | refused e => .error e
  | step _ rest => rest.result

/-- All that a transcript writes to a stream, when nothing stops it. -/
def written (stream : Stream) : Transcript α → Text
  | done _ => []
  | refused _ => []
  | step (.write target t) rest =>
    if target = stream then t ++ rest.written stream else rest.written stream
  | step _ rest => rest.written stream

end Transcript

/-! ## Delivery -/

/-- Why a run ended without a result. -/
inductive Halt where
  /-- A sink took less than a whole text. -/
  | sinkFull
  /-- A report could not be laid out. -/
  | refused (e : LayoutError)
  deriving DecidableEq, Repr

/-- How many more bytes the two sinks take; `none` stands for any number. -/
structure Room where
  /-- The room for the error stream. -/
  error : Option Nat := none
  /-- The room for the output stream. -/
  output : Option Nat := none

/-- The room of one stream. -/
def Room.of (r : Room) : Stream → Option Nat
  | .error => r.error
  | .output => r.output

/-- The room that is left after so many bytes went to a stream. -/
def Room.after (r : Room) (stream : Stream) (size : Nat) : Room :=
  match stream with
  | .error => { r with error := r.error.map (· - size) }
  | .output => { r with output := r.output.map (· - size) }

/-- What came of running a transcript. -/
structure Delivery (α : Type) where
  /-- The steps that were taken; a write that failed is among them. -/
  steps : List Step
  /-- The bytes that the error stream holds. -/
  error : List UInt8
  /-- The bytes that the output stream holds. -/
  output : List UInt8
  /-- The result, or why there is none. -/
  result : Except Halt α

namespace Delivery

variable {α : Type}

/-- A delivery preceded by a step. -/
def afterStep (s : Step) (d : Delivery α) : Delivery α := { d with steps := s :: d.steps }

/-- A delivery preceded by bytes on a stream. -/
def afterBytes (stream : Stream) (bs : List UInt8) (d : Delivery α) : Delivery α :=
  match stream with
  | .error => { d with error := bs ++ d.error }
  | .output => { d with output := bs ++ d.output }

/-- The delivery that takes no step. -/
def ofResult (r : Except Halt α) : Delivery α := ⟨[], [], [], r⟩

end Delivery

/-- The bytes that fit into the given room. -/
def fitting (room : Option Nat) (bs : List UInt8) : List UInt8 :=
  match room with
  | none => bs
  | some n => bs.take n

/-- All of the bytes fit into the given room. -/
def allFit (room : Option Nat) (bs : List UInt8) : Bool :=
  match room with
  | none => true
  | some n => bs.length ≤ n

/-- Runs a transcript against two sinks. -/
def Transcript.deliver {α : Type} : Transcript α → Room → Delivery α
  | done a, _ => .ofResult (.ok a)
  | refused e, _ => .ofResult (.error (.refused e))
  | step s rest, room =>
    match s with
    | .write stream t =>
      let bs := t.bytes
      let delivered :=
        if allFit (room.of stream) bs then
          (rest.deliver (room.after stream bs.length)).afterBytes stream bs
        else (Delivery.ofResult (.error .sinkFull)).afterBytes stream (fitting (room.of stream) bs)
      delivered.afterStep s
    | _ => (rest.deliver room).afterStep s

end CommitGate
