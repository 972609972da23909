/-!
# Texts

A text is the list of its characters, so that a column is a position in the list and a cut can never
fall inside a character. This module holds the few ways of composing texts that the whole library
shares.
-/

namespace CommitGate

/-- A text is the list of its characters; columns are positions in it. -/
abbrev Text := List Char

namespace Text

/-- The decimal numeral of a number. -/
def ofNat (n : Nat) : Text := Nat.toDigits 10 n

/-- A run of `n` spaces. -/
def spaces (n : Nat) : Text := List.replicate n ' '

/-- Right-aligns a text in a field of the given width; a longer text is left as it is. -/
def alignRight (width : Nat) (t : Text) : Text := spaces (width - t.length) ++ t

/-- Texts one after the other, with a line feed between neighbours. -/
def joinLines (ts : List Text) : Text := ['\n'].intercalate ts

/-- A text with the line feed that ends it. -/
def line (t : Text) : Text := t ++ ['\n']

/-- A count with its noun, in the plural unless the count is one. -/
def count (n : Nat) (noun : Text) : Text :=
  ofNat n ++ ' ' :: noun ++ if n = 1 then [] else ['s']

end Text

end CommitGate
