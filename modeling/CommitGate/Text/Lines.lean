import CommitGate.Text.Basic

/-!
# Lines

A line ends at a line feed, and a carriage return just before that line feed belongs to the ending.
A carriage return anywhere else is an ordinary character. What follows the last line feed is a line
only if it is not empty, so the empty text has no lines at all.
-/

namespace CommitGate.Text

/-- A line without the carriage return that ends it, if there is one. -/
def dropReturn (t : Text) : Text := if t.getLast? = some '\r' then t.dropLast else t

/-- The lines among the pieces between line feeds: each piece but the last was ended by a line feed,
and the last one counts only if it holds anything. -/
def linesOfPieces : List Text → List Text
  | [] => []
  | [last] => if last = [] then [] else [last]
  | piece :: next :: rest => dropReturn piece :: linesOfPieces (next :: rest)

/-- The lines of a text, without their endings. -/
def lines (t : Text) : List Text := linesOfPieces (t.splitOn '\n')

/-- The subject of a message is its first line. -/
def subject? (t : Text) : Option Text := (lines t).head?

end CommitGate.Text
