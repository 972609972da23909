import CommitGate.Text.Basic
import CommitGate.Text.CodeSpan
import CommitGate.Text.GraphicTable

/-!
# Escaped texts

A text in double quotes on a single line, for messages that name it. What would not be seen there is
written as an escape: the quote itself, the backslash, controls, separators, unassigned characters
and combining marks.
-/

namespace CommitGate.Text

/-- A character that shows up by itself when it is printed. -/
def isGraphic (c : Char) : Bool :=
  if c.toNat < 0x80 then 0x20 ≤ c.toNat && c.toNat < 0x7F else anySpanHas graphicSpans c.toNat

/-- The escaped form of a character. -/
def escapedChar (c : Char) : Text :=
  match c with
  | '\x00' => ['\\', '0']
  | '\t' => ['\\', 't']
  | '\n' => ['\\', 'n']
  | '\r' => ['\\', 'r']
  | '"' => ['\\', '"']
  | '\\' => ['\\', '\\']
  | _ => if isGraphic c then [c] else "\\u\x7b".toList ++ Nat.toDigits 16 c.toNat ++ "\x7d".toList

/-- A text in double quotes, with escapes. -/
def escaped (t : Text) : Text := '"' :: t.flatMap escapedChar ++ ['"']

end CommitGate.Text
