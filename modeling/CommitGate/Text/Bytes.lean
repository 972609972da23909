import CommitGate.Text.Basic

/-!
# Bytes

The UTF-8 form of a text, and the two ways of reading bytes back: a strict one that refuses
malformed input, and a lenient one that puts U+FFFD in place of each malformed part. A malformed
part is as long as possible: it is a proper beginning of some well-formed sequence, or a single byte
that starts none.
-/

namespace CommitGate

namespace Text

/-- The UTF-8 bytes of a text. -/
def bytes (t : Text) : List UInt8 := t.flatMap String.utf8EncodeChar

theorem bytes_cons (c : Char) (rest : Text) :
    bytes (c :: rest) = String.utf8EncodeChar c ++ bytes rest := List.flatMap_cons

theorem bytes_append (s t : Text) : bytes (s ++ t) = s.bytes ++ t.bytes := List.flatMap_append

/-- The beginning of a text that takes up exactly `n` bytes, if the text has one: it may be shorter,
or byte `n` may fall inside a character. -/
def takeBytes? : Nat → Text → Option Text
  | 0, _ => some []
  | _ + 1, [] => none
  | n + 1, c :: rest =>
    if c.utf8Size ≤ n + 1 then (takeBytes? (n + 1 - c.utf8Size) rest).map (c :: ·) else none

end Text

namespace Utf8

/-- A sequence that has begun and still needs bytes. -/
structure Pending where
  /-- How many more bytes the sequence needs. -/
  owed : Nat
  /-- The least byte that may come next. -/
  low : Nat
  /-- The greatest byte that may come next. -/
  high : Nat
  /-- The payload bits gathered so far. -/
  value : Nat

/-- What a byte is when no sequence is pending. -/
inductive Lead where
  /-- A character by itself. -/
  | ascii (c : Char)
  /-- The first byte of a longer sequence. -/
  | opens (p : Pending)
  /-- No sequence starts with this byte. -/
  | malformed

/-- Classifies the first byte of a sequence. The bounds on the second byte exclude overlong forms,
surrogates and values above U+10FFFF. -/
def lead (b : Nat) : Lead :=
  if b < 0x80 then .ascii (Char.ofNat b)
  else if b < 0xC2 then .malformed
  else if b < 0xE0 then .opens ⟨1, 0x80, 0xBF, b - 0xC0⟩
  else if b = 0xE0 then .opens ⟨2, 0xA0, 0xBF, 0⟩
  else if b = 0xED then .opens ⟨2, 0x80, 0x9F, 0xD⟩
  else if b < 0xF0 then .opens ⟨2, 0x80, 0xBF, b - 0xE0⟩
  else if b = 0xF0 then .opens ⟨3, 0x90, 0xBF, 0⟩
  else if b < 0xF4 then .opens ⟨3, 0x80, 0xBF, b - 0xF0⟩
  else if b = 0xF4 then .opens ⟨3, 0x80, 0x8F, 4⟩
  else .malformed

/-- The characters of a byte sequence, with `none` for each malformed part, starting from what is
pending. -/
def parts : Option Pending → List UInt8 → List (Option Char)
  | none, [] => []
  | some _, [] => [none]
  | pending, b :: rest =>
    let fresh : Unit → List (Option Char) := fun _ =>
      match lead b.toNat with
      | .ascii c => some c :: parts none rest
      | .opens p => parts (some p) rest
      | .malformed => none :: parts none rest
    match pending with
    | none => fresh ()
    | some p =>
      if p.low ≤ b.toNat ∧ b.toNat ≤ p.high then
        let value := p.value * 64 + (b.toNat - 0x80)
        if p.owed ≤ 1 then some (Char.ofNat value) :: parts none rest
        else parts (some ⟨p.owed - 1, 0x80, 0xBF, value⟩) rest
      else none :: fresh ()

/-- Reads bytes leniently: each malformed part becomes U+FFFD. -/
def decodeLossy (bs : List UInt8) : Text := (parts none bs).map (·.getD '\ufffd')

/-- Reads bytes strictly: malformed input has no text. -/
def decode? (bs : List UInt8) : Option Text := (parts none bs).mapM id

end Utf8

end CommitGate
