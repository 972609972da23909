import CommitGate.Toml.Expression

/-!
# TOML documents

A document is a list of statements, one a line: headers, and keys with their values. Its meaning is
the table that the statements build, each key going to the table of the header above it.
-/

namespace CommitGate.Toml

/-- A statement of a document. -/
inductive Statement where
  /-- A header in single brackets: the keys that follow go to the table it names. -/
  | table (path : KeyPath) (extent : Extent)
  /-- A header in double brackets: the keys that follow go to a new table of an array. -/
  | next (path : KeyPath) (extent : Extent)
  /-- A key with its value, and where the value stands. -/
  | assignment (path : KeyPath) (value : Value) (extent : Extent)

/-- The token that a tree is. -/
def Tree.token : Tree → Except Malformed Token
  | .leaf t => .ok t
  | .group _ e _ => .error ⟨.noKey, e⟩

/-- Whether a tree is a lexeme. -/
def Tree.isLexeme (l : Lexeme) : Tree → Bool
  | .leaf t => t.lexeme = l
  | .group _ _ _ => false

/-- Spaces, tabs and comments, which may surround a statement. -/
def Tree.isSpace : Tree → Bool
  | .leaf t => t.isBlank || t.lexeme = .comment
  | .group _ _ _ => false

/-- The path in a header. -/
def headerPath (extent : Extent) (parts : List Tree) : Except Malformed KeyPath := do
  keyPath extent (← parts.mapM Tree.token)

/-- The statement on a line, with no space around it. -/
def statement (line : List Tree) : Except Malformed Statement :=
  match line with
  | [.group .square extent [.group .square _ parts]] =>
    (headerPath extent parts).map (.next · extent)
  | [.group .square extent parts] => (headerPath extent parts).map (.table · extent)
  | .group .square _ _ :: t :: _ => .error ⟨.trailing, t.extent⟩
  | _ => do
    let place := (line.head?.map Tree.extent).getD ⟨0, 0⟩
    let (path, value, extent) ← keyAndValue place (← partsOf line)
    .ok (.assignment path value extent)

/-- The statements of a document. -/
def statements (document : Text) : Except Malformed (List Statement) := do
  let lines := (← trees document).splitOnP (Tree.isLexeme .newline)
  let lines := lines.map fun l =>
    ((l.dropWhile Tree.isSpace).reverse.dropWhile Tree.isSpace).reverse
  (lines.filter (!·.isEmpty)).mapM statement

/-- A document as far as it has been carried out: its table, and the header that is in force. -/
structure Draft where
  /-- The table of the whole document. -/
  root : Entries
  /-- The keys of the header in force. -/
  header : List Key

/-- Carries out a statement. -/
def Draft.apply (d : Draft) : Statement → Except Malformed Draft
  | .table path extent => do
    let root ← descend .implicit (openTable path.last extent) path.parents d.root
    .ok ⟨root, path.parents ++ [path.last]⟩
  | .next path extent => do
    let root ← descend .implicit (openNext path.last extent) path.parents d.root
    .ok ⟨root, path.parents ++ [path.last]⟩
  | .assignment path value extent => do
    let root ← descend .implicit (assign path value extent) d.header d.root
    .ok { d with root }

/-- The table that a document describes. -/
def read (document : Text) : Except Malformed Entries := do
  let draft ← (← statements document).foldlM Draft.apply ⟨[], []⟩
  .ok draft.root

end CommitGate.Toml
