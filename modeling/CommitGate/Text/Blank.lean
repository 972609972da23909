import CommitGate.Text.Basic

/-!
# Blanks

A blank is a character with the `White_Space` property. Zero-width characters such as U+200B and
U+FEFF do not have it, and neither do the separators U+001C to U+001F.
-/

namespace CommitGate.Text

/-- The `White_Space` property. -/
def isBlank (c : Char) : Bool :=
  let n := c.toNat
  n = 0x20 || (0x09 ≤ n && n ≤ 0x0D) || n = 0x85 || n = 0xA0 || n = 0x1680 ||
    (0x2000 ≤ n && n ≤ 0x200A) || n = 0x2028 || n = 0x2029 || n = 0x202F || n = 0x205F || n = 0x3000

/-- A text without the blanks it starts with. -/
def trimStart (t : Text) : Text := t.dropWhile isBlank

/-- A text without the blanks it ends with. -/
def trimEnd (t : Text) : Text := (t.reverse.dropWhile isBlank).reverse

/-- A text without the blanks at either end. -/
def trim (t : Text) : Text := trimEnd (trimStart t)

/-- A text that holds something, and nothing but blanks. -/
def isAllBlank (t : Text) : Bool := !t.isEmpty && t.all isBlank

/-- The words of a text are its longest runs without blanks. -/
def words (t : Text) : List Text := (t.splitOnP isBlank).filter (!·.isEmpty)

end CommitGate.Text
