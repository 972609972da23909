import CommitGate.Settings.Basic
import CommitGate.Text.Escaped
import CommitGate.Toml.Document
import CommitGate.Toml.Excerpt

/-!
# Settings in a document

A settings document is a TOML table with at most two keys: `base_ref`, a string, and `limit`, a
number of commits. Its keys are looked at in the order of their names, and the first that does not
fit is complained about. A document that is not TOML is no settings document, whatever its keys.
-/

namespace CommitGate.Settings

/-- The keys of a settings document. -/
inductive Field where
  /-- The reference whose history is shared. -/
  | baseRef
  /-- The greatest number of commits. -/
  | limit
  deriving DecidableEq, Repr

namespace Field

/-- The key of a field. -/
def key : Field → Text
  | baseRef => "base_ref".toList
  | limit => "limit".toList

/-- The field of a key. -/
def ofKey? (name : Text) : Option Field := [baseRef, limit].find? (·.key = name)

/-- What a field wants, in a complaint. -/
def wanted : Field → Text
  | baseRef => "a string".toList
  | limit => "usize".toList

end Field

/-- The greatest limit. -/
def maxLimit : Nat := Nat.pow 2 64 - 1

/-- A power of two, as a bound of the integers of some bits. -/
def twoTo (bits : Nat) : Int := .ofNat (Nat.pow 2 bits)

/-- Why a document gives no settings. -/
inductive Trouble where
  /-- It is not TOML. -/
  | malformed (problem : Toml.Problem)
  /-- A number is too large for any use, or is no number after all. -/
  | outOfRange
  /-- A key is not the key of a field. -/
  | unknownKey (name : Text)
  /-- A value is not of the kind that its field wants. -/
  | wrongKind (field : Field) (value : Toml.Value)
  /-- A limit is negative. -/
  | negative (n : Int)

/-- A text between backquotes. -/
def backquoted (t : Text) : Text := '\x60' :: t ++ ['\x60']

/-- The decimal numeral of an integer. -/
def numeral (n : Int) : Text := if n < 0 then '-' :: Text.ofNat n.natAbs else Text.ofNat n.natAbs

/-- An integer in a complaint. Beyond 64 bits the width that holds it is named. -/
def describeInteger (n : Int) : Text :=
  let shown := "integer ".toList ++ backquoted (numeral n)
  if -twoTo 63 ≤ n ∧ n < twoTo 64 then shown
  else if n < twoTo 127 then shown ++ " as i128".toList
  else shown ++ " as u128".toList

/-- A value in a complaint. -/
def describe : Toml.Value → Text
  | .string content => "string ".toList ++ Text.escaped content
  | .integer n => (n.map describeInteger).getD []
  | .float x => "floating point ".toList ++ backquoted ((x.map Binary64.text).getD [])
  | .boolean b => "boolean ".toList ++ backquoted (if b then "true".toList else "false".toList)
  | .array _ | .tables _ _ => "sequence".toList
  | .table _ _ | .moment _ => "map".toList

/-- What is said about a trouble. -/
def Trouble.message : Trouble → Text
  | malformed problem => problem.message
  | outOfRange => "number out of range".toList
  | unknownKey name =>
    "unknown field ".toList ++ backquoted name ++ ", expected ".toList ++
      backquoted Field.baseRef.key ++ " or ".toList ++ backquoted Field.limit.key
  | wrongKind field value =>
    "invalid type: ".toList ++ describe value ++ ", expected ".toList ++ field.wanted
  | negative n =>
    "invalid value: ".toList ++ describeInteger n ++ ", expected ".toList ++ Field.limit.wanted

/-- Whether a value is a number that neither 128 bits nor the floating-point format can hold. -/
def isOutOfRange : Toml.Value → Bool
  | .integer none => true
  | .integer (some n) => n < -twoTo 127 || twoTo 128 ≤ n
  | .float none => true
  | _ => false

/-- Settings with a field set to a value, if the value fits. -/
def set (s : Settings) (field : Field) (value : Toml.Value) : Except Trouble Settings :=
  if isOutOfRange value then .error .outOfRange
  else
    match field, value with
    | .baseRef, .string content => .ok { s with baseRef := content }
    | .limit, .integer (some n) =>
      if 0 ≤ n ∧ n ≤ maxLimit then .ok { s with limit := n.toNat }
      else if -twoTo 63 ≤ n ∧ n < 0 then .error (.negative n)
      else .error (.wrongKind .limit value)
    | _, _ => .error (.wrongKind field value)

/-- A trouble with the place in the document that shows it. -/
structure Complaint where
  /-- What is wrong. -/
  trouble : Trouble
  /-- Where it shows. -/
  extent : Toml.Extent

/-- Settings with an entry of a document carried over. A key is complained about where it stands, a
value where the value does. -/
def addEntry (s : Settings) (entry : Toml.Label × Toml.Value) : Except Complaint Settings :=
  match Field.ofKey? entry.1.name with
  | none => .error ⟨.unknownKey entry.1.name, entry.1.key⟩
  | some field => (s.set field entry.2).mapError (⟨·, entry.1.value⟩)

/-- The settings that a table gives; what it leaves out keeps its default. -/
def ofTable (entries : Toml.Entries) : Except Complaint Settings :=
  (entries.mergeSort fun a b => !decide (b.1.name < a.1.name)).foldlM addEntry {}

/-- The settings that a document gives. -/
def ofDocument (document : Text) : Except Complaint Settings :=
  match Toml.read document with
  | .error m => .error ⟨.malformed m.problem, m.extent⟩
  | .ok entries => ofTable entries

end CommitGate.Settings
