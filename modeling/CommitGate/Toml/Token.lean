import CommitGate.Text.Basic

/-!
# Tokens of a TOML document

A document is cut into tokens: blanks, line ends, comments, punctuation marks, quoted strings
(already decoded) and bare runs of other characters. Nothing of the document is lost: each token
knows the stretch of the document it covers, and the tokens cover it from end to end.
-/

namespace CommitGate.Toml

/-- A stretch of a document, in characters: from `start` up to, not including, `stop`. -/
structure Extent where
  /-- Where it begins. -/
  start : Nat
  /-- Where it is over. -/
  stop : Nat
  deriving DecidableEq, Repr

/-- What can be wrong with the form of a document. -/
inductive Problem where
  /-- A character that is not allowed where it stands. -/
  | strayCharacter
  /-- A string without an end. -/
  | openString
  /-- A backslash that starts no escape. -/
  | unknownEscape
  /-- A bracket without a partner. -/
  | loneBracket
  /-- Brackets nested too deeply. -/
  | tooDeep
  /-- Something else where a key is needed. -/
  | noKey
  /-- Something else where a value is needed. -/
  | noValue
  /-- Something after the end of a statement. -/
  | trailing
  /-- A key that is taken. -/
  | duplicate
  deriving DecidableEq, Repr

/-- What is said about a problem. -/
def Problem.message : Problem → Text
  | strayCharacter => "invalid character".toList
  | openString => "unclosed string".toList
  | unknownEscape => "unknown escape sequence".toList
  | loneBracket => "unmatched bracket".toList
  | tooDeep => "brackets nested too deeply".toList
  | noKey => "expected a key".toList
  | noValue => "expected a value".toList
  | trailing => "unexpected text after the statement".toList
  | duplicate => "duplicate key".toList

/-- A document that is not TOML: the first problem, and where it shows. -/
structure Malformed where
  /-- What is wrong. -/
  problem : Problem
  /-- The stretch that shows it. -/
  extent : Extent
  deriving DecidableEq, Repr

/-- What a token is. -/
inductive Lexeme where
  /-- Spaces and tabs. -/
  | blank (run : Text)
  /-- The end of a line. -/
  | newline
  /-- A comment, up to the end of its line. -/
  | comment
  /-- One of `. , = [ ] { }`. -/
  | mark (c : Char)
  /-- A quoted string; one in triple quotes may extend over several lines. -/
  | quoted (triple : Bool) (content : Text)
  /-- A run of other characters. -/
  | bare (run : Text)
  deriving DecidableEq, Repr

/-- A lexeme with the stretch of the document it covers. -/
structure Token where
  /-- What the token is. -/
  lexeme : Lexeme
  /-- Where it stands. -/
  extent : Extent
  deriving DecidableEq, Repr

/-! ## Classes of characters -/

/-- Spaces and tabs; other characters that look blank are not allowed between tokens. -/
def isBlank (c : Char) : Bool := c = ' ' || c = '\t'

/-- The punctuation marks. -/
def isMark (c : Char) : Bool := ['.', ',', '=', '[', ']', '\x7b', '\x7d'].contains c

/-- The characters that end a bare run. Quotes are not among them. -/
def endsBare (c : Char) : Bool := isBlank c || isMark c || ['\n', '\r', '#'].contains c

/-- The controls that may stand neither in a comment nor in a string. -/
def isControl (c : Char) : Bool := (c.toNat < 0x20 && c ≠ '\t') || c.toNat = 0x7F

/-! ## Strings

Each reader gets what follows the opening quotes and gives the content with the number of characters
it has used up, the closing quotes included. -/

/-- The value of a hexadecimal digit. -/
def hexDigit? (c : Char) : Option Nat :=
  if c.isDigit then some (c.toNat - '0'.toNat)
  else if 'a' ≤ c ∧ c ≤ 'f' then some (c.toNat - 'a'.toNat + 10)
  else if 'A' ≤ c ∧ c ≤ 'F' then some (c.toNat - 'A'.toNat + 10)
  else none

/-- The character whose code is written in the first `count` characters, in hexadecimal. Surrogates
and numbers beyond the code space are no characters. -/
def codedChar? (count : Nat) (t : Text) : Option Char := do
  let digits ← (t.take count).mapM hexDigit?
  let code := digits.foldl (fun n d => 16 * n + d) 0
  if digits.length = count ∧ code.isValidChar then some (Char.ofNat code) else none

/-- Reads an escape after its backslash: the character it stands for, and its length. -/
def escape? : Text → Option (Char × Nat)
  | 'b' :: _ => some ('\x08', 1)
  | 't' :: _ => some ('\t', 1)
  | 'n' :: _ => some ('\n', 1)
  | 'f' :: _ => some ('\x0C', 1)
  | 'r' :: _ => some ('\r', 1)
  | 'e' :: _ => some ('\x1B', 1)
  | '"' :: _ => some ('"', 1)
  | '\\' :: _ => some ('\\', 1)
  | 'x' :: rest => (codedChar? 2 rest).map (·, 3)
  | 'u' :: rest => (codedChar? 4 rest).map (·, 5)
  | 'U' :: rest => (codedChar? 8 rest).map (·, 9)
  | _ => none

/-- Reads a string on one line. Only double quotes know escapes. -/
def readLine (quote : Char) : Text → Except Problem (Text × Nat)
  | [] => .error .openString
  | c :: rest =>
    if c = quote then .ok ([], 1)
    else if c = '\\' ∧ quote = '"' then
      match escape? rest with
      | none => .error .unknownEscape
      | some (e, length) =>
        (readLine quote (rest.drop length)).map fun (t, used) => (e :: t, used + length + 1)
    else if isControl c then .error .openString
    else (readLine quote rest).map fun (t, used) => (c :: t, used + 1)
termination_by t => t.length
decreasing_by all_goals simp only [List.length_drop, List.length_cons]; omega

/-- The length of the blanks and line ends that a text starts with. -/
def gapLength : Text → Nat
  | '\r' :: '\n' :: rest => gapLength rest + 2
  | c :: rest => if isBlank c ∨ c = '\n' then gapLength rest + 1 else 0
  | [] => 0

/-- The length of what a backslash at the end of a line takes away: the blanks after it, the line
end, and all blanks and line ends that follow. -/
def continuation? (t : Text) : Option Nat :=
  match t.dropWhile isBlank with
  | '\n' :: _ | '\r' :: '\n' :: _ => some (gapLength t)
  | _ => none

/-- Reads a string in triple quotes. Up to two quotes before the closing three are content. A line
feed may have a carriage return before it; both stay in the content. -/
def readBlock (quote : Char) : Text → Except Problem (Text × Nat)
  | [] => .error .openString
  | c :: rest =>
    if c = quote ∧ (rest.take 2) = [quote, quote] then
      let more := ((rest.drop 2).take 2).takeWhile (· = quote)
      .ok (more, 3 + more.length)
    else if c = '\\' ∧ quote = '"' then
      match continuation? rest, escape? rest with
      | some length, _ =>
        (readBlock quote (rest.drop length)).map fun (t, used) => (t, used + length + 1)
      | none, some (e, length) =>
        (readBlock quote (rest.drop length)).map fun (t, used) => (e :: t, used + length + 1)
      | none, none => .error .unknownEscape
    else if isControl c ∧ c ≠ '\n' ∧ ¬(c = '\r' ∧ rest.head? = some '\n') then
      .error .strayCharacter
    else (readBlock quote rest).map fun (t, used) => (c :: t, used + 1)
termination_by t => t.length
decreasing_by all_goals simp only [List.length_drop, List.length_cons]; omega

/-- Reads a string after its first quote. A line end right after three opening quotes is not
content. -/
def readString (quote : Char) (rest : Text) : Except Problem (Lexeme × Nat) :=
  if rest.take 2 = [quote, quote] then
    let body := rest.drop 2
    let skipped := match body with
      | '\n' :: _ => 1
      | '\r' :: '\n' :: _ => 2
      | _ => 0
    (readBlock quote (body.drop skipped)).map fun (t, used) => (.quoted true t, used + skipped + 2)
  else (readLine quote rest).map fun (t, used) => (.quoted false t, used)

/-! ## Tokens -/

/-- Reads the token that starts with `c`: its lexeme, and how many of the characters after `c` it
covers. -/
def readLexeme (c : Char) (rest : Text) : Except Problem (Lexeme × Nat) :=
  if isBlank c then
    let run := rest.takeWhile isBlank
    .ok (.blank (c :: run), run.length)
  else if c = '\n' then .ok (.newline, 0)
  else if c = '\r' then
    if rest.head? = some '\n' then .ok (.newline, 1) else .error .strayCharacter
  else if c = '#' then
    let run := rest.takeWhile fun d => d ≠ '\n'
    let body := if run.getLast? = some '\r' ∧ run.length < rest.length then run.dropLast else run
    if body.any isControl then .error .strayCharacter else .ok (.comment, body.length)
  else if isMark c then .ok (.mark c, 0)
  else if c = '"' ∨ c = '\'' then readString c rest
  else
    let run := rest.takeWhile fun d => !endsBare d
    .ok (.bare (c :: run), run.length)

/-- The tokens of a text that begins at the given place of its document. -/
def tokensFrom (place : Nat) : Text → Except Malformed (List Token)
  | [] => .ok []
  | c :: rest =>
    match readLexeme c rest with
    | .error problem => .error ⟨problem, ⟨place, place + 1⟩⟩
    | .ok (lexeme, more) =>
      let stop := place + 1 + more
      (tokensFrom stop (rest.drop more)).map (⟨lexeme, ⟨place, stop⟩⟩ :: ·)
termination_by t => t.length
decreasing_by simp only [List.length_drop, List.length_cons]; omega

/-- The tokens of a document; a byte order mark at its beginning is skipped. -/
def tokens (document : Text) : Except Malformed (List Token) :=
  match document with
  | '\ufeff' :: rest => tokensFrom 1 rest
  | _ => tokensFrom 0 document

end CommitGate.Toml
