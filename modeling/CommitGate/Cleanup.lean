import CommitGate.Text.Blank
import CommitGate.Text.Lines

/-!
# Cleaning an edited message

Before an edited message is recorded, everything from the scissors line on is dropped, and so are
the comment lines; what is left loses its trailing blanks, runs of empty lines shrink to one, and
empty lines at either end go. Empty lines that only a comment kept apart form one run.
-/

namespace CommitGate

/-- The line below which an edited message holds nothing of its own. -/
def scissorsLine : Text := "# ------------------------ >8 ------------------------".toList

/-- The lines of an edited message that can be part of the recorded one. -/
def contentLines (raw : Text) : List Text :=
  ((raw.lines.takeWhile (· != scissorsLine)).filter (·.head? != some '#')).map Text.trimEnd

/-- Keeps an empty line only after a line with content; `afterContent` says whether one came just
before. -/
def squeeze : (afterContent : Bool) → List Text → List Text
  | _, [] => []
  | afterContent, l :: rest =>
    if l = [] then
      if afterContent then l :: squeeze false rest else squeeze false rest
    else l :: squeeze true rest

/-- A list of lines without the empty line that it may end in. -/
def dropLastEmpty (ls : List Text) : List Text := if ls.getLast? = some [] then ls.dropLast else ls

/-- The message that is recorded for an edited one. -/
def cleanup (raw : Text) : Text := Text.joinLines (dropLastEmpty (squeeze false (contentLines raw)))

end CommitGate
