import CommitGate.Text.Bytes
import CommitGate.Toml.Token

/-!
# Excerpts of a document

A complaint about a document shows the line it is about, under a heading with the position, with
carets below the place.
-/

namespace CommitGate.Toml

/-- The place of a character: the characters before it on its line, and the rest of that line. -/
def lineAround (document : Text) (place : Nat) : Text × Text :=
  (((document.take place).reverse.takeWhile (· ≠ '\n')).reverse,
    (document.drop place).takeWhile (· ≠ '\n'))

/-- How many carets stand under an extent: one for each of its bytes, as far as the line has bytes
beyond the column, and at least one. -/
def caretCount (document : Text) (extent : Extent) : Nat :=
  let (before, after) := lineAround document extent.start
  let wanted := (Text.bytes ((document.take extent.stop).drop extent.start)).length
  max 1 (min wanted ((Text.bytes (before ++ after)).length - before.length))

/-- A complaint about a place of a document. Lines and columns count from one. -/
def excerpt (document : Text) (extent : Extent) (message : Text) : Text :=
  let (before, after) := lineAround document extent.start
  let number := Text.ofNat ((document.take extent.start).count '\n' + 1)
  let gutter := Text.spaces (number.length + 1) ++ ['|']
  [ "TOML parse error at line ".toList ++ number ++ ", column ".toList ++
      Text.ofNat (before.length + 1),
    gutter,
    number ++ " | ".toList ++ before ++ after,
    gutter ++ Text.spaces (before.length + 1) ++ List.replicate (caretCount document extent) '^',
    message ].flatMap Text.line

end CommitGate.Toml
