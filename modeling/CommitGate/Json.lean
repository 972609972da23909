import CommitGate.Text.Basic

/-!
# JSON values

JSON values with natural numbers and ordered fields, and their indented form: two spaces for each
level, one item or field on a line, and an array or object without members on a single line.
-/

namespace CommitGate

/-- A JSON value. -/
inductive Json where
  /-- The null value. -/
  | null
  /-- A natural number. -/
  | number (n : Nat)
  /-- A string. -/
  | string (t : Text)
  /-- An array. -/
  | array (items : List Json)
  /-- An object, with its fields in writing order. -/
  | object (fields : List (Text × Json))

namespace Json

/-- A hexadecimal digit in lower case. -/
def hexDigit (n : Nat) : Char := n.digitChar

/-- The form of a character inside a string. Quotes, backslashes and control characters are escaped,
by a letter where there is one. -/
def escape (c : Char) : Text :=
  match c with
  | '"' => ['\\', '"']
  | '\\' => ['\\', '\\']
  | '\x08' => ['\\', 'b']
  | '\x0c' => ['\\', 'f']
  | '\n' => ['\\', 'n']
  | '\r' => ['\\', 'r']
  | '\t' => ['\\', 't']
  | _ =>
    if c.toNat < 0x20 then ['\\', 'u', '0', '0', hexDigit (c.toNat / 16), hexDigit (c.toNat % 16)]
    else [c]

/-- A string with its quotes. -/
def quote (t : Text) : Text := '"' :: t.flatMap escape ++ ['"']

/-- A line feed and the indentation of the given level. -/
def indent (level : Nat) : Text := '\n' :: Text.spaces (2 * level)

mutual

/-- The indented form of a value whose first line is already indented to the given level. -/
def pretty (level : Nat) : Json → Text
  | .null => "null".toList
  | .number n => Text.ofNat n
  | .string t => quote t
  | .array [] => "[]".toList
  | .array (item :: items) =>
    '[' :: indent (level + 1) ++ pretty (level + 1) item ++ prettyItems (level + 1) items ++
      indent level ++ [']']
  | .object [] => ['{', '}']
  | .object ((name, value) :: fields) =>
    '{' :: indent (level + 1) ++ quote name ++ ": ".toList ++ pretty (level + 1) value ++
      prettyFields (level + 1) fields ++ indent level ++ ['}']

/-- The further items of an array, each behind a comma. -/
def prettyItems (level : Nat) : List Json → Text
  | [] => []
  | item :: items => ',' :: indent level ++ pretty level item ++ prettyItems level items

/-- The further fields of an object, each behind a comma. -/
def prettyFields (level : Nat) : List (Text × Json) → Text
  | [] => []
  | (name, value) :: fields =>
    ',' :: indent level ++ quote name ++ ": ".toList ++ pretty level value ++
      prettyFields level fields

end

/-- The indented form of a document. -/
def document (v : Json) : Text := pretty 0 v

/-- A string, or null if there is none. -/
def ofOption : Option Text → Json
  | none => .null
  | some t => .string t

end Json

end CommitGate
