import TypedVars.Text.Span

/-!
# Blank characters

White space of every script, and texts without it at their ends.
-/

namespace TypedVars

/-- The spans of white space. -/
def blankSpans : List Span :=
  [(0x9, 0xD), (0x20, 0x20), (0x85, 0x85), (0xA0, 0xA0), (0x1680, 0x1680), (0x2000, 0x200A),
    (0x2028, 0x2029), (0x202F, 0x202F), (0x205F, 0x205F), (0x3000, 0x3000)]

/-- A white space character. -/
def isBlank (c : Char) : Bool := inSpans blankSpans c

/-- The characters after the leading white space. -/
def trimStart (cs : List Char) : List Char := cs.dropWhile isBlank

/-- The characters before the trailing white space. -/
def trimEnd (cs : List Char) : List Char := (cs.reverse.dropWhile isBlank).reverse

/-- The characters between the white space at the two ends. -/
def trim (cs : List Char) : List Char := trimEnd (trimStart cs)

/-- The text between the white space at the two ends. -/
def trimText (s : String) : String := String.ofList (trim s.toList)

end TypedVars
