import CommitGate.Diagnostic
import CommitGate.Text.Quoted
import CommitGate.Text.Sentence

/-!
# The casing of the subject

A subject must be in sentence case. It is written in upper case if all its words are, or if at least
three and at least 67 in a hundred are; it is written in title case if all its words start with an
upper-case letter and there are at least three, or if at least five words and three quarters of all
do. Quoted spans do not count, and neither verdict falls on a subject whose words all have at most
two characters. A subject in neither case must at least start with an upper-case character.
-/

namespace CommitGate.Policy

/-- Words up to this length are no evidence of a case. -/
def shortWord : Nat := 2

/-- The words of a subject that the verdicts on case look at. -/
def casedWords (subject : Text) : List Text := (Text.withoutQuoted subject.trim).words

/-- Some word is long enough to be evidence of a case. -/
def hasLongWord (ws : List Text) : Bool := ws.any (shortWord < ·.length)

/-- A word in upper case: at least two characters, a letter first, and unchanged by upper-casing. -/
def isUpperWord (w : Text) : Bool :=
  1 < w.length && w.head?.any Text.isLetter && Text.toUpper w == w

/-- A word that starts with a letter which is its own upper-case form. -/
def isTitleWord (w : Text) : Bool := w.head?.any fun c => Text.isLetter c && Text.upperOf c == [c]

/-- The words are in upper case, all or nearly all. -/
def inUpperCase (ws : List Text) : Bool :=
  let upper := ws.countP isUpperWord
  upper == ws.length || (3 ≤ upper && 67 * ws.length ≤ 100 * upper)

/-- The words are in title case, all or nearly all. -/
def inTitleCase (ws : List Text) : Bool :=
  let title := ws.countP isTitleWord
  (5 ≤ title && 3 * ws.length ≤ 4 * title) || (title == ws.length && 3 ≤ ws.length)

/-- What the casing rule finds in a subject. -/
inductive Casing where
  /-- The subject is in upper case. -/
  | upper
  /-- The subject is in title case. -/
  | title
  /-- The subject is in neither case and starts with a character that is not upper-case. -/
  | lowStart (first : Char) (rest : Text)
  /-- The subject is as it should be. -/
  | fine

/-- The verdict on a subject; upper case takes precedence over title case. -/
def casingOf : Text → Casing
  | [] => .fine
  | first :: rest =>
    let ws := casedWords (first :: rest)
    if hasLongWord ws && inUpperCase ws then .upper
    else if hasLongWord ws && inTitleCase ws then .title
    else if Text.isUpper first then .fine
    else .lowStart first rest

/-- The background of the title-case verdict. -/
def titleCaseNote : Text :=
  ("This check can be pedantic in some cases. " ++
    "Words in quotes (e.g. \"'\", \"\x60\") and words\n" ++
    "inside code brackets (e.g. \"[]\", \"\x7b\x7d\" etc.) are ignored for this check " ++
    "for the purposes of\n" ++
    "representing code, quotes, or other terminology.").toList

/-- The diagnostic for a whole subject in the wrong case. -/
def wrongCase (description hint subject : Text) : Diagnostic where
  description := description
  code := some "WRONG_CASED_SUBJECT".toList
  location := some ⟨0, 0, subject.length⟩
  hint := some hint
  help := some <|
    (Help.ofProse "Convert the subject to sentence-case:".toList).addSuggestion
      (Text.sentenceCase subject)

/-- The diagnostic for a subject that starts low. -/
def lowStart (first : Char) (rest : Text) : Diagnostic where
  description := "Subject lines must start with an upper-case character".toList
  code := some "WRONG_CASED_SUBJECT".toList
  location := some ⟨0, 0, 1⟩
  hint := some "non-uppercase starting character".toList
  help := some <|
    (Help.ofProse "Start the subject with an uppercase character".toList).addSuggestion
      (Text.upperOf first ++ rest)

/-- At most one diagnostic, for the case of the subject. -/
def checkCasing (message : Text) : List Diagnostic :=
  match message.subject? with
  | none => []
  | some subject =>
    match casingOf subject with
    | .upper =>
      [wrongCase "Subject line must not be in upper-case".toList "subject in upper case".toList
        subject]
    | .title =>
      [{ wrongCase "Subject line must not be in title-case".toList "subject in title case".toList
          subject with note := some titleCaseNote }]
    | .lowStart first rest => [lowStart first rest]
    | .fine => []

end CommitGate.Policy
