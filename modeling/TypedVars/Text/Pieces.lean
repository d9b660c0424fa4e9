/-!
# Pieces of a text

The pieces between the occurrences of a separator; there is one more of them than there are
separators, and empty ones count.
-/

namespace TypedVars

/-- The pieces of a text between the occurrences of a separator. -/
def pieces (separator : Char) : List Char → List (List Char)
  | [] => [[]]
  | c :: rest =>
    if c = separator then [] :: pieces separator rest
    else
      match pieces separator rest with
      | first :: others => (c :: first) :: others
      | [] => [[c]]

end TypedVars
