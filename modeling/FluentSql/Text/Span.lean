/-!
# Spans of code points

A set of characters is given as a list of inclusive spans of code points. Character classes of
the text modules are membership in such a list.
-/

namespace FluentSql.Text

/-- The code points from `first` to `last`, both included. -/
structure Span where
  first : Nat
  last : Nat

/-- A character lies in a span when its code point is between the two ends. -/
def Span.holds (s : Span) (c : Char) : Bool :=
  s.first ≤ c.toNat && c.toNat ≤ s.last

/-- Membership in a union of spans. -/
def inSpans (spans : List Span) (c : Char) : Bool :=
  spans.any (·.holds c)

end FluentSql.Text
