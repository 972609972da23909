import CommitGate.Text.Basic

/-!
# Styled text

Text for a terminal is laid out once, as pieces that know their styles, and painted afterwards.
Without colours a piece is its text; with colours it stands between the control sequences that
switch its styles on and the one that switches all styles off.
-/

namespace CommitGate

/-- A display attribute of a terminal. -/
inductive Style where
  /-- Bold type. -/
  | bold
  /-- Dim type. -/
  | dim
  /-- Red foreground. -/
  | red
  /-- Green foreground. -/
  | green
  /-- Yellow foreground. -/
  | yellow
  /-- Magenta foreground. -/
  | magenta
  /-- Cyan foreground. -/
  | cyan
  /-- White foreground. -/
  | white
  deriving DecidableEq, Repr

/-- The number by which a terminal knows a style. -/
def Style.number : Style → Nat
  | .bold => 1
  | .dim => 2
  | .red => 31
  | .green => 32
  | .yellow => 33
  | .magenta => 35
  | .cyan => 36
  | .white => 37

/-- The control sequence that sets the attribute with the given number. -/
def controlSequence (n : Nat) : Text := '\x1b' :: '[' :: Text.ofNat n ++ ['m']

/-- The control sequence that switches all styles off. -/
def resetSequence : Text := controlSequence 0

/-- A stretch of text in one style. -/
inductive Piece where
  /-- Text without a style. -/
  | plain (t : Text)
  /-- Text in the given styles, of which there may be several at once. -/
  | styled (styles : List Style) (t : Text)

/-- The text of a piece, in colour or not. -/
def Piece.paint (color : Bool) : Piece → Text
  | .plain t => t
  | .styled styles t =>
    if color then styles.flatMap (fun s => controlSequence s.number) ++ t ++ resetSequence else t

/-- The text of a sequence of pieces, in colour or not. -/
def paint (color : Bool) (pieces : List Piece) : Text := pieces.flatMap (Piece.paint color)

/-- A line feed as a piece. -/
def newline : Piece := .plain ['\n']

end CommitGate
