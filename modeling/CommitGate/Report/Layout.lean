import CommitGate.Report.Basic
import CommitGate.Report.Style
import CommitGate.Text.Bytes

/-!
# Reports for a terminal

The diagnostics of a report are grouped by code and description, and every group is laid out under
one header. A diagnostic shows the line it points at, with carets under the highlight and the hint
aligned with the last caret, then its help and its note.

A field for alignment is at most 65535 columns wide. A report that would need a wider one is refused
as a whole.
-/

namespace CommitGate

/-! ## Groups -/

/-- What the diagnostics of one group share. -/
structure GroupKey where
  /-- The code, if they have one. -/
  code : Option Text
  /-- The description. -/
  description : Text
  deriving DecidableEq, Repr

/-- The order of groups: those without a code first, then by code, then by description. -/
def GroupKey.le (a b : GroupKey) : Bool :=
  match a.code, b.code with
  | none, none => !decide (b.description < a.description)
  | none, some _ => true
  | some _, none => false
  | some x, some y => decide (x < y) || (x == y && !decide (b.description < a.description))

/-- The group that a diagnostic belongs to. -/
def Diagnostic.groupKey (d : Diagnostic) : GroupKey := ⟨d.code, d.description⟩

/-- The diagnostics in groups. Within a group they keep their order. -/
def groupDiagnostics (ds : List Diagnostic) : List (List Diagnostic) :=
  (ds.mergeSort fun a b => a.groupKey.le b.groupKey).splitBy fun a b => a.groupKey == b.groupKey

/-! ## The parts of a report -/

/-- A line cut at the columns of a highlight: what is before, inside and after it. Columns beyond
the line count as its end, and a highlight that ends before it starts is empty. -/
def splitColumns (line : Text) (start stop : Nat) : Text × Text × Text :=
  (line.take start, (line.take stop).drop start, line.drop (max start stop))

/-- The text of an empty margin. -/
def margin : Text := Text.spaces marginWidth

/-- The line that a location points at; a row past the end counts as an empty line. -/
def Location.lineIn (l : Location) (lines : List Text) : Text := lines[l.line]?.getD []

/-- The column where a highlight starts on its line. -/
def Location.firstColumn (l : Location) (lines : List Text) : Nat :=
  (splitColumns (l.lineIn lines) l.start l.stop).1.length

/-- The column where a highlight ends on its line. -/
def Location.endColumn (l : Location) (lines : List Text) : Nat :=
  l.firstColumn lines + (splitColumns (l.lineIn lines) l.start l.stop).2.1.length

/-- Up to two lines before the highlighted one: an ellipsis if more were left out, and the line just
before it. -/
def contextPieces (lines : List Text) (row : Nat) : List Piece :=
  (if 2 ≤ row then [.plain margin, .styled [.dim] "...".toList, newline] else []) ++
    match row with
    | 0 => []
    | previous + 1 =>
      match lines[previous]? with
      | some line => [.plain margin, .styled [.dim] line, newline]
      | none => []

/-- The label of a row, which counts from one. -/
def rowLabel (row : Nat) : Text :=
  Text.alignRight marginWidth ('L' :: Text.ofNat (row + 1) ++ ": ".toList)

/-- The highlighted line, with the label of its row. -/
def sourcePieces (lines : List Text) (l : Location) : List Piece :=
  let (before, inside, after) := splitColumns (l.lineIn lines) l.start l.stop
  [.styled [.bold, .cyan] (rowLabel l.line), .plain before, .styled [.bold, .red] inside,
    .plain after, newline]

/-- The carets under the highlight. -/
def caretPieces (lines : List Text) (l : Location) : List Piece :=
  let first := l.firstColumn lines
  [.plain margin, .plain (Text.spaces first),
    .styled [.bold, .red] (List.replicate (l.endColumn lines - first) '^'), newline]

/-- The width of the field that ends with the last caret. -/
def hintWidth (lines : List Text) (l : Location) : Nat := marginWidth + l.endColumn lines

/-- The hint, ending under the last caret if it is not too long. -/
def hintPieces (lines : List Text) (l : Location) (hint : Option Text) : List Piece :=
  match hint with
  | none => []
  | some h => [.styled [.bold, .yellow] (Text.alignRight (hintWidth lines l) h), newline]

/-- A location with its context, its carets and its hint. -/
def locationPieces (lines : List Text) (l : Location) (hint : Option Text) : List Piece :=
  contextPieces lines l.line ++ sourcePieces lines l ++ caretPieces lines l ++
    hintPieces lines l hint ++ [newline]

/-- A help with its suggestions in colour. -/
def Help.pieces (h : Help) : List Piece :=
  [Piece.plain "\n\n".toList].intercalate (h.parts.map fun
    | .prose t => [.plain t]
    | .suggestion t => [.styled [.green] (suggestionBlock t)])

/-- One diagnostic under the header of its group. -/
def Diagnostic.pieces (lines : List Text) (d : Diagnostic) : List Piece :=
  (match d.location with
    | none => []
    | some l => locationPieces lines l d.hint) ++
  (match d.help with
    | none => []
    | some h =>
      [.styled [.bold, .green] "Help:".toList, .plain [' ']] ++ h.pieces ++ [newline, newline]) ++
  match d.note with
  | none => []
  | some n => [.styled [.bold, .magenta] "Note:".toList, .plain (' ' :: n), newline]

/-- The header of a group. -/
def GroupKey.header (k : GroupKey) : Text :=
  "Error".toList ++
    (match k.code with
      | none => []
      | some c => " [".toList ++ c ++ [']']) ++
    " - ".toList ++ k.description ++ [':']

/-- A group: its header and its diagnostics. -/
def groupPieces (lines : List Text) : List Diagnostic → List Piece
  | [] => []
  | d :: ds =>
    [.styled [.bold, .red] d.groupKey.header, newline, newline] ++
      (d :: ds).flatMap (Diagnostic.pieces lines) ++ [newline]

/-- The closing line of a report with diagnostics. -/
def summaryPieces (count : Nat) : List Piece :=
  [.styled [.bold, .red] (Text.count count "error".toList),
    .plain " in this commit message.".toList, newline]

/-! ## Whole reports -/

/-- The greatest width of a field. -/
def fieldLimit : Nat := 65535

/-- Why a report cannot be laid out. -/
inductive LayoutError where
  /-- A hint would need a field that is too wide. -/
  | fieldTooWide
  deriving DecidableEq, Repr

/-- The wording of a refusal. -/
def LayoutError.message : LayoutError → Text
  | .fieldTooWide => "Formatting argument out of range".toList

/-- The hint of a diagnostic, if it is shown, fits into a field. -/
def Diagnostic.fits (lines : List Text) (d : Diagnostic) : Bool :=
  match d.location, d.hint with
  | some l, some _ => hintWidth lines l ≤ fieldLimit
  | _, _ => true

namespace Report

/-- All fields of a report are narrow enough. -/
def fits (r : Report) : Bool := r.diagnostics.all (Diagnostic.fits r.message.lines)

/-- The pieces of a report. -/
def pieces (r : Report) : List Piece :=
  (groupDiagnostics r.diagnostics).flatMap (groupPieces r.message.lines) ++
    if r.diagnostics = [] then [] else summaryPieces r.diagnostics.length

/-- A report as text for a terminal, in colour or not. -/
def text (color : Bool) (r : Report) : Except LayoutError Text :=
  if r.fits then .ok (paint color r.pieces) else .error .fieldTooWide

end Report

/-! ## Progress -/

/-- How many bytes of a hash are shown. -/
def shortHashSize : Nat := 10

/-- The shown part of a hash. A hash that cannot be cut there is shown in full. -/
def shortHash (hash : Text) : Text := (hash.takeBytes? shortHashSize).getD hash

/-- The line that announces the review of a commit. -/
def checkingPieces (hash message : Text) : List Piece :=
  [.styled [.bold, .cyan] "Checking".toList, .plain " message ".toList,
    .styled [.bold, .white] ('"' :: (message.subject?.getD []) ++ ['"']), .plain " (commit ".toList,
    .styled [.bold, .green] (shortHash hash), .plain [')']]

/-- The line that says that no violation was found. -/
def finishedPieces : List Piece :=
  [.styled [.bold, .green] "Finished".toList, .plain " checking commit messages".toList]

end CommitGate
