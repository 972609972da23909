import CommitGate.Text.Blank
import CommitGate.Text.Letter

/-!
# Sentence case

A sentence starts with an upper-case character and goes on in lower case, except that the pronoun
"I" stays upper-case. The pronoun is found after lowering, as a lone `i`: at the start or after a
blank, and before a blank, a comma, a full stop, a semicolon, a colon or the end. The search goes
from left to right and a character that ended one pronoun does not also introduce the next.
-/

namespace CommitGate.Text

/-- What may follow the pronoun. -/
def endsPronoun (c : Char) : Bool := c ∈ [',', '.', ';', ':'] || isBlank c

/-- Where the search for the pronoun stands. -/
inductive PronounSearch where
  /-- A pronoun may start here: nothing came before, or a blank that ended no pronoun. -/
  | mayStart
  /-- A pronoun cannot start here. -/
  | within
  /-- A lone `i` came just before and waits for what follows it. -/
  | held

/-- Restores the pronoun in a lowered text. -/
def restorePronoun : PronounSearch → Text → Text
  | .held, [] => ['I']
  | _, [] => []
  | .mayStart, 'i' :: rest => restorePronoun .held rest
  | .held, c :: rest =>
    if endsPronoun c then 'I' :: c :: restorePronoun .within rest
    else 'i' :: c :: restorePronoun .within rest
  | _, c :: rest => c :: restorePronoun (if isBlank c then .mayStart else .within) rest

/-- The first character in upper case and the others in lower case, one by one. -/
def capitalized : Text → Text
  | [] => []
  | c :: rest => upperOf c ++ toLower rest

/-- A subject in sentence case, without the blanks around it. -/
def sentenceCase (t : Text) : Text := restorePronoun .mayStart (capitalized t.trim)

end CommitGate.Text
