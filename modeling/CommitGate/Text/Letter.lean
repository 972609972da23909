import CommitGate.Text.Basic
import CommitGate.Text.LetterTable
import CommitGate.Text.CaseTable

/-!
# Letters and their case

The properties and mappings of single characters that the casing rule needs. ASCII is decided by
arithmetic and the rest by table. A case mapping may give several characters, as in `ß` to `SS`.
-/

namespace CommitGate.Text

/-- A character of ASCII. -/
def isAscii (c : Char) : Bool := c.toNat < 0x80

/-- The `Alphabetic` property. -/
def isLetter (c : Char) : Bool :=
  if isAscii c then c.isAlpha else anySpanHas alphabeticSpans c.toNat

/-- The `Uppercase` property. -/
def isUpper (c : Char) : Bool :=
  if isAscii c then c.isUpper else anySpanHas uppercaseSpans c.toNat

/-- The image of a character above ASCII under a table of sequences and a table of single images; a
character in neither stands for itself. -/
def mapCase (sequences : List (Nat × List Nat)) (spans : List MappedSpan) (c : Char) : Text :=
  match sequences.lookup c.toNat with
  | some codes => codes.map Char.ofNat
  | none =>
    match imageOf? spans c.toNat with
    | some code => [Char.ofNat code]
    | none => [c]

/-- The upper-case form of a character. -/
def upperOf (c : Char) : Text :=
  if isAscii c then [c.toUpper] else mapCase upperSequences upperSpans c

/-- The lower-case form of a character. -/
def lowerOf (c : Char) : Text :=
  if isAscii c then [c.toLower] else mapCase lowerSequences lowerSpans c

/-- The upper-case form of a text, character by character. -/
def toUpper (t : Text) : Text := t.flatMap upperOf

/-- The lower-case form of a text, character by character. -/
def toLower (t : Text) : Text := t.flatMap lowerOf

end CommitGate.Text
