/-!
# Spans of characters

A property of characters is kept as the list of the code point spans on which it holds, ascending
and disjoint.
-/

namespace TypedVars

/-- A span of code points: its first and its last. -/
abbrev Span := Nat × Nat

/-- Whether a character lies in one of the spans. -/
def inSpans (spans : List Span) (c : Char) : Bool :=
  spans.any fun (first, last) => first ≤ c.toNat && c.toNat ≤ last

end TypedVars
