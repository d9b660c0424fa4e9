import TypedVars.Json.Reader
import TypedVars.Log.Pattern.Switches

/-!
# Escapes of a pattern

What a backslash and the characters after it stand for.  Classes by a property of their characters
have no meaning, since no properties are known.
-/

namespace TypedVars

namespace Pattern

/-- The meaning of an escape. -/
inductive Escape where
  /-- A character, which may be given by its byte. -/
  | char (c : Char) (byByte : Bool)
  /-- The digits, the spaces or the parts of words, or the complement of these. -/
  | predefined (complement : Bool)
  /-- The ends of a word, or places that are none. -/
  | boundary
  /-- The ends of the text. -/
  | edge
  deriving DecidableEq

/-- The character of a code point with some number of hexadecimal digits, of which each may be
followed by what does not count, and the rest. -/
def readCodePoint? (sw : Switches) : Nat → Nat → List Char → Option (Char × List Char)
  | 0, n, cs => if n.isValidChar then some (Char.ofNat n, cs) else none
  | _ + 1, _, [] => none
  | count + 1, n, c :: r =>
    (Json.hexValue? c).bind fun digit => readCodePoint? sw count (16 * n + digit) (sw.skip r)

/-- Reads an escape after its backslash. -/
def readEscape? (sw : Switches) : List Char → Option (Escape × List Char)
  | [] => none
  | c :: r =>
    let byCode (count : Nat) : Option (Escape × List Char) :=
      (readCodePoint? sw count 0 (sw.skip r)).map fun (c, r) => (.char c (count == 2), r)
    match c with
    | 'x' => byCode 2
    | 'u' => byCode 4
    | 'U' => byCode 8
    | 'd' | 's' | 'w' => some (.predefined false, r)
    | 'D' | 'S' | 'W' => some (.predefined true, r)
    | 'b' | 'B' | '<' | '>' => some (.boundary, r)
    | 'A' | 'z' => some (.edge, r)
    | 'a' => some (.char '\x07' false, r)
    | 't' => some (.char '\t' false, r)
    | 'n' => some (.char '\n' false, r)
    | 'v' => some (.char '\x0b' false, r)
    | 'f' => some (.char '\x0c' false, r)
    | 'r' => some (.char '\r' false, r)
    | _ => if c.toNat < 0x80 && !c.isAlphanum then some (.char c false, r) else none

end Pattern

end TypedVars
