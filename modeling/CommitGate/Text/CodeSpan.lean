/-!
# Spans of code points

A character property is kept as an increasing list of spans. The members of a span lie one stride
apart, which suits the scripts where upper- and lower-case letters alternate.
-/

namespace CommitGate.Text

/-- The code points `first`, `first + stride`, … up to `last`. -/
structure Span where
  /-- The first member. -/
  first : Nat
  /-- The last member. -/
  last : Nat
  /-- The distance between neighbours. -/
  stride : Nat

/-- Membership of a code point in a span. -/
def Span.has (s : Span) (n : Nat) : Bool :=
  s.first ≤ n && n ≤ s.last && (n - s.first) % s.stride = 0

/-- Membership in an increasing list of spans; the search ends at the first span that lies above the
code point. -/
def anySpanHas : List Span → Nat → Bool
  | [], _ => false
  | s :: rest, n => if n < s.first then false else s.has n || anySpanHas rest n

/-- A span whose members are all moved by the same distance. -/
structure MappedSpan where
  /-- The members. -/
  source : Span
  /-- The image of the first member. -/
  image : Nat

/-- The image of a code point under an increasing list of mapped spans. -/
def imageOf? : List MappedSpan → Nat → Option Nat
  | [], _ => none
  | s :: rest, n =>
    if n < s.source.first then none
    else if s.source.has n then some (s.image + (n - s.source.first))
    else imageOf? rest n

end CommitGate.Text
