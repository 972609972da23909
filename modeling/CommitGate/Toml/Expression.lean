import CommitGate.Toml.Scalar
import CommitGate.Toml.Table
import CommitGate.Toml.Tree

/-!
# Written keys and values

How keys and values are read off the bracket trees of a document. Groups become arrays and inline
tables from the inside out; everything else in a value is a single string, or the written form of a
scalar.
-/

namespace CommitGate.Toml

/-! ## Keys -/

/-- The characters of a key without quotes. -/
def isKeyChar (c : Char) : Bool := c.isAlphanum || c = '_' || c = '-'

/-- The key that a token is. -/
def Token.key? (t : Token) : Option Key :=
  match t.lexeme with
  | .bare run => if run.all isKeyChar then some ⟨run, t.extent⟩ else none
  | .quoted false content => some ⟨content, t.extent⟩
  | _ => none

/-- Spaces and tabs are a token without meaning. -/
def Token.isBlank (t : Token) : Bool :=
  match t.lexeme with
  | .blank _ => true
  | _ => false

/-- A path of keys with dots between them, blanks taken out. `place` is what to show if there is no
key. -/
def keyPathFrom (place : Extent) : List Token → Except Malformed KeyPath
  | [] => .error ⟨.noKey, place⟩
  | [t] =>
    match t.key? with
    | some k => .ok ⟨[], k⟩
    | none => .error ⟨.noKey, t.extent⟩
  | t :: dot :: more =>
    match t.key? with
    | none => .error ⟨.noKey, t.extent⟩
    | some k =>
      if dot.lexeme = .mark '.' then
        (keyPathFrom dot.extent more).map fun path => ⟨k :: path.parents, path.last⟩
      else .error ⟨.trailing, dot.extent⟩

/-- A path of keys with dots between them; it may be no longer than groups may be deep. -/
def keyPath (place : Extent) (ts : List Token) : Except Malformed KeyPath := do
  let path ← keyPathFrom place (ts.filter fun t => !t.isBlank)
  if path.parents.length < deepest then .ok path else .error ⟨.tooDeep, path.last.extent⟩

/-! ## Values -/

/-- A part of a written value: a token, or a group that has become a value. -/
inductive Part where
  /-- A token. -/
  | token (t : Token)
  /-- The value of a group. -/
  | value (v : Value) (extent : Extent)

namespace Part

/-- Where the part stands. -/
def extent : Part → Extent
  | token t => t.extent
  | value _ e => e

/-- The lexeme of a part that is a token. -/
def lexeme? : Part → Option Lexeme
  | token t => some t.lexeme
  | value _ _ => none

/-- Spaces and tabs. -/
def isBlank : Part → Bool
  | token t => t.isBlank
  | value _ _ => false

/-- Blanks, line ends and comments, which may surround the elements of a group. -/
def isSpace (p : Part) : Bool :=
  p.isBlank || p.lexeme? = some .newline || p.lexeme? = some .comment

/-- The characters of a part that can belong to a scalar. -/
def scalarText? : Part → Option Text
  | token ⟨.bare run, _⟩ => some run
  | token ⟨.blank run, _⟩ => some run
  | token ⟨.mark '.', _⟩ => some ['.']
  | _ => none

end Part

/-- The stretch from the first part to the last, or `place` if there is none. -/
def stretch (place : Extent) (ps : List Part) : Extent :=
  ⟨(ps.head?.map (·.extent.start)).getD place.start,
    (ps.getLast?.map (·.extent.stop)).getD place.stop⟩

/-- Parts without the space at their end. -/
def trimSpaceEnd (ps : List Part) : List Part := (ps.reverse.dropWhile Part.isSpace).reverse

/-- The value that parts write, with no space around them. `place` is what to show if there are
none. -/
def valueOf (place : Extent) (ps : List Part) : Except Malformed (Value × Extent) :=
  let extent := stretch place ps
  match ps with
  | [] => .error ⟨.noValue, place⟩
  | [.value v e] => .ok (v, e)
  | [.token ⟨.quoted _ content, e⟩] => .ok (.string content, e)
  | _ =>
    match (ps.mapM Part.scalarText?).bind fun texts => scalar? texts.flatten with
    | some v => .ok (v, extent)
    | none => .error ⟨.noValue, extent⟩

/-- The elements of a group: what stands between its commas. A comma may follow the last one. -/
def elements (ps : List Part) : List (List Part) :=
  let pieces := ps.splitOnP fun p => p.lexeme? = some (.mark ',')
  let pieces := if (pieces.getLast?.any (·.all Part.isSpace)) then pieces.dropLast else pieces
  pieces.map fun p => trimSpaceEnd (p.dropWhile Part.isSpace)

/-- A key with its value, from parts with no space around them. Space may stand around the equals
sign; in a statement of its own that can only be blanks, since a line end would be over with it. -/
def keyAndValue (place : Extent) (ps : List Part) :
    Except Malformed (KeyPath × Value × Extent) := do
  let before := ps.takeWhile fun p => p.lexeme? ≠ some (.mark '=')
  let tokens ← (trimSpaceEnd before).mapM fun
    | .token t => .ok t
    | .value _ e => .error ⟨.noKey, e⟩
  let path ← keyPath place tokens
  let (value, extent) ← valueOf place ((ps.drop (before.length + 1)).dropWhile Part.isSpace)
  .ok (path, value, extent)

/-- The value of a group. -/
def groupValue (bracket : Bracket) (extent : Extent) (ps : List Part) : Except Malformed Value :=
  match bracket with
  | .square => ((elements ps).mapM (valueOf extent)).map fun vs => .array (vs.map (·.1))
  | .curly => do
    let entries ← (elements ps).foldlM (fun (entries : Entries) p => do
      let (path, value, place) ← keyAndValue extent p
      assign path value place entries) []
    .ok (.table .inline entries)

mutual

/-- The part that a tree is, once its groups have become values. -/
def Tree.part : Tree → Except Malformed Part
  | .leaf t => .ok (.token t)
  | .group bracket extent trees => do
    let v ← groupValue bracket extent (← partsOf trees)
    .ok (.value v extent)

/-- The parts that trees are. -/
def partsOf : List Tree → Except Malformed (List Part)
  | [] => .ok []
  | t :: rest => do
    let p ← t.part
    let ps ← partsOf rest
    .ok (p :: ps)

end

end CommitGate.Toml
