import TypedVars.Json.Basic
import TypedVars.Number.Literal

/-!
# Reading JSON

A reader for JSON texts.  It works on characters and returns what it read together with the rest of
the text; `Json.parse?` wants the whole text to be one value between white space.

Strings must hold no raw control character, and an escaped surrogate must have its partner.  An
integer literal of 64 bits is exact and any other numeral is the nearest double; the literal `-0`
has a sign that an integer would lose, so it is a double too.
-/

namespace TypedVars

namespace Json

/-- The white space of JSON. -/
def isSpace (c : Char) : Bool := c == ' ' || c == '\n' || c == '\t' || c == '\r'

/-- The text after leading white space. -/
def skip (cs : List Char) : List Char := cs.dropWhile isSpace

/-- The value of a hexadecimal digit. -/
def hexValue? (c : Char) : Option Nat :=
  if c.isDigit then some (c.toNat - '0'.toNat)
  else if 'a' ≤ c ∧ c ≤ 'f' then some (c.toNat - 'a'.toNat + 10)
  else if 'A' ≤ c ∧ c ≤ 'F' then some (c.toNat - 'A'.toNat + 10)
  else none

/-- The value of four hexadecimal digits. -/
def hexValue4? (a b c d : Char) : Option Nat := do
  return (((← hexValue? a) * 16 + (← hexValue? b)) * 16 + (← hexValue? c)) * 16 + (← hexValue? d)

/-- The character of an escape letter. -/
def escaped? : Char → Option Char
  | '"' => some '"'
  | '\\' => some '\\'
  | '/' => some '/'
  | 'b' => some '\x08'
  | 'f' => some '\x0c'
  | 'n' => some '\n'
  | 'r' => some '\r'
  | 't' => some '\t'
  | _ => none

/-- The first half of a pair of surrogates. -/
def isHighSurrogate (n : Nat) : Bool := 0xD800 ≤ n && n < 0xDC00

/-- The second half of a pair of surrogates. -/
def isLowSurrogate (n : Nat) : Bool := 0xDC00 ≤ n && n < 0xE000

/-- The character of a pair of surrogates. -/
def ofSurrogates (high low : Nat) : Char :=
  Char.ofNat (0x10000 + (high - 0xD800) * 0x400 + (low - 0xDC00))

/-- Reads the characters of a string up to its closing quote.  `pending` is the first half of a pair
of surrogates whose second half has to come next. -/
def readChars? (pending : Option Nat) : List Char → Option (List Char × List Char)
  | '"' :: rest => if pending.isNone then some ([], rest) else none
  | '\\' :: 'u' :: a :: b :: c :: d :: rest =>
    match hexValue4? a b c d, pending with
    | none, _ => none
    | some n, some high =>
      if isLowSurrogate n then
        (readChars? none rest).map fun (s, r) => (ofSurrogates high n :: s, r)
      else none
    | some n, none =>
      if isHighSurrogate n then readChars? (some n) rest
      else if isLowSurrogate n then none
      else (readChars? none rest).map fun (s, r) => (Char.ofNat n :: s, r)
  | '\\' :: e :: rest =>
    match escaped? e, pending with
    | some c, none => (readChars? none rest).map fun (s, r) => (c :: s, r)
    | _, _ => none
  | c :: rest =>
    if c.toNat < 0x20 ∨ c = '\\' ∨ pending.isSome then none
    else (readChars? none rest).map fun (s, r) => (c :: s, r)
  | [] => none

/-- Reads a string from after its opening quote. -/
def readString? (cs : List Char) : Option (String × List Char) :=
  (readChars? none cs).map fun (s, r) => (String.ofList s, r)

/-- Splits the exponent off a numeral: whether there is one, its value, and the rest. -/
def readNumberExponent? : List Char → Option (Option Int × List Char)
  | c :: cs =>
    if c = 'e' ∨ c = 'E' then
      let (negative, ds) := splitSign cs
      let digits := ds.takeWhile Char.isDigit
      if digits.isEmpty then none
      else
        let n : Int := decimalValue digits
        some (some (if negative then -n else n), ds.dropWhile Char.isDigit)
    else some (none, c :: cs)
  | [] => some (none, [])

/-- Splits the fraction off a numeral: its digits, if there is one, and the rest. -/
def readFraction? : List Char → Option (Option (List Char) × List Char)
  | '.' :: cs =>
    let digits := cs.takeWhile Char.isDigit
    if digits.isEmpty then none else some (some digits, cs.dropWhile Char.isDigit)
  | cs => some (none, cs)

/-- The number of a numeral with the given parts. -/
def ofNumeral (negative : Bool) (whole : List Char) (fraction : Option (List Char))
    (exponent : Option Int) : JsonNumber :=
  let digits := whole ++ fraction.getD []
  let double := .double (.ofDecimal negative (decimalValue digits)
    (exponent.getD 0 - (fraction.getD []).length))
  if fraction.isSome || exponent.isSome then double
  else
    let n := decimalValue whole
    let i : Int := if negative then -(n : Int) else n
    if negative && n == 0 then double
    else if JsonNumber.holdsInt i then .int i else double

/-- Reads a numeral. -/
def readNumber? (cs : List Char) : Option (JsonNumber × List Char) :=
  let (negative, body) := match cs with
    | '-' :: r => (true, r)
    | r => (false, r)
  let whole := body.takeWhile Char.isDigit
  if whole.isEmpty ∨ (whole.head? = some '0' ∧ whole.length ≠ 1) then none
  else do
    let (fraction, rest) ← readFraction? (body.dropWhile Char.isDigit)
    let (exponent, rest) ← readNumberExponent? rest
    return (ofNumeral negative whole fraction exponent, rest)

mutual

/-- Reads one value after white space.  The first argument bounds the number of steps. -/
def readValue? : Nat → List Char → Option (Json × List Char)
  | 0, _ => none
  | fuel + 1, cs =>
    match skip cs with
    | 'n' :: 'u' :: 'l' :: 'l' :: rest => some (.null, rest)
    | 't' :: 'r' :: 'u' :: 'e' :: rest => some (.bool true, rest)
    | 'f' :: 'a' :: 'l' :: 's' :: 'e' :: rest => some (.bool false, rest)
    | '"' :: rest => (readString? rest).map fun (s, r) => (.string s, r)
    | '[' :: rest =>
      match skip rest with
      | ']' :: rest => some (.array [], rest)
      | rest => (readElements? fuel rest).map fun (vs, r) => (.array vs, r)
    | '{' :: rest =>
      match skip rest with
      | '}' :: rest => some (.object [], rest)
      | rest => (readMembers? fuel rest).map fun (ms, r) => (.object ms, r)
    | rest => (readNumber? rest).map fun (n, r) => (.number n, r)

/-- Reads the elements of an array that has some, and its end. -/
def readElements? : Nat → List Char → Option (List Json × List Char)
  | 0, _ => none
  | fuel + 1, cs =>
    match readValue? fuel cs with
    | none => none
    | some (v, rest) =>
      match skip rest with
      | ']' :: rest => some ([v], rest)
      | ',' :: rest => (readElements? fuel rest).map fun (vs, r) => (v :: vs, r)
      | _ => none

/-- Reads the members of an object that has some, and its end. -/
def readMembers? : Nat → List Char → Option (List (String × Json) × List Char)
  | 0, _ => none
  | fuel + 1, cs =>
    match skip cs with
    | '"' :: rest =>
      match readString? rest with
      | none => none
      | some (name, rest) =>
        match skip rest with
        | ':' :: rest =>
          match readValue? fuel rest with
          | none => none
          | some (v, rest) =>
            match skip rest with
            | '}' :: rest => some ([(name, v)], rest)
            | ',' :: rest => (readMembers? fuel rest).map fun (ms, r) => ((name, v) :: ms, r)
            | _ => none
        | _ => none
    | _ => none

end

/-- Reads a text that is one value, with white space around it. -/
def parse? (cs : List Char) : Option Json :=
  match readValue? (2 * cs.length + 1) cs with
  | some (v, rest) => if (skip rest).isEmpty then some v else none
  | none => none

end Json

end TypedVars
