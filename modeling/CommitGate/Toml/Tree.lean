import CommitGate.Toml.Token

/-!
# Bracket trees

Brackets give the tokens of a document their structure: everything between a bracket and its partner
is a group. Line ends matter only outside of groups, so that a document is a list of statements once
its groups are known.
-/

namespace CommitGate.Toml

/-- The two kinds of brackets. -/
inductive Bracket where
  /-- The brackets of arrays and headers. -/
  | square
  /-- The brackets of inline tables. -/
  | curly
  deriving DecidableEq, Repr

/-- The bracket that a mark opens. -/
def Bracket.opened? : Lexeme → Option Bracket
  | .mark '[' => some .square
  | .mark '\x7b' => some .curly
  | _ => none

/-- The bracket that a mark closes. -/
def Bracket.closed? : Lexeme → Option Bracket
  | .mark ']' => some .square
  | .mark '\x7d' => some .curly
  | _ => none

/-- Tokens with the groups that brackets make. -/
inductive Tree where
  /-- A token outside of any further group. -/
  | leaf (token : Token)
  /-- A group, with the stretch from bracket to bracket. -/
  | group (bracket : Bracket) (extent : Extent) (parts : List Tree)

/-- The stretch of the document that a tree covers. -/
def Tree.extent : Tree → Extent
  | leaf t => t.extent
  | group _ e _ => e

/-- How deep groups may be nested, and how many keys a dotted key may have. -/
def deepest : Nat := 80

/-- A group that is still open. -/
structure OpenGroup where
  /-- The bracket that opened it. -/
  bracket : Bracket
  /-- Where that bracket stands. -/
  extent : Extent
  /-- What stood before it in the enclosing group, the last part first. -/
  before : List Tree

/-- Builds trees from tokens. `groups` are the open groups, the innermost first, and `parts` holds
what the innermost has so far, the last part first. -/
def grow (groups : List OpenGroup) (parts : List Tree) : List Token → Except Malformed (List Tree)
  | [] =>
    match groups with
    | [] => .ok parts.reverse
    | g :: _ => .error ⟨.loneBracket, g.extent⟩
  | t :: rest =>
    match Bracket.opened? t.lexeme, Bracket.closed? t.lexeme with
    | some b, _ =>
      if groups.length < deepest then grow (⟨b, t.extent, parts⟩ :: groups) [] rest
      else .error ⟨.tooDeep, t.extent⟩
    | none, some b =>
      match groups with
      | g :: outer =>
        if g.bracket = b then
          grow outer (.group b ⟨g.extent.start, t.extent.stop⟩ parts.reverse :: g.before) rest
        else .error ⟨.loneBracket, t.extent⟩
      | [] => .error ⟨.loneBracket, t.extent⟩
    | none, none => grow groups (.leaf t :: parts) rest

/-- The trees of a document. -/
def trees (document : Text) : Except Malformed (List Tree) := do grow [] [] (← tokens document)

end CommitGate.Toml
