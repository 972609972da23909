import CommitGate.Text.Basic

/-!
# Quoted spans

Quotes, code marks and brackets set off names and code from prose. A span runs from an opening
delimiter to the nearest closing delimiter after it that matches; what stands between them is not
looked at. An opening delimiter that is never closed is an ordinary character.
-/

namespace CommitGate.Text

/-- The delimiter that closes a span, for each that opens one. -/
def closer? : Char → Option Char
  | '\x60' => some '\x60'
  | '"' => some '"'
  | '\'' => some '\''
  | '[' => some ']'
  | '{' => some '}'
  | _ => none

/-- The text after the first occurrence of a character. -/
def after (c : Char) (t : Text) : Text := (t.dropWhile (· != c)).tail

theorem length_after_le (c : Char) (t : Text) : (after c t).length ≤ t.length := by
  have h : (t.dropWhile (· != c)).length ≤ t.length := (List.dropWhile_sublist _).length_le
  simp only [after, List.length_tail]
  omega

/-- A text without its quoted spans. -/
def withoutQuoted : Text → Text
  | [] => []
  | c :: rest =>
    match closer? c with
    | some close =>
      if close ∈ rest then withoutQuoted (after close rest) else c :: withoutQuoted rest
    | none => c :: withoutQuoted rest
termination_by t => t.length
decreasing_by
  · have := length_after_le close rest
    simp only [List.length_cons]
    omega
  · simp
  · simp

end CommitGate.Text
