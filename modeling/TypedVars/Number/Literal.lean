import TypedVars.Number.Double

/-!
# Reading numbers

The grammar of number texts: an optional sign, then `inf`, `infinity` or `nan` in any case, or
decimal digits with at most one point and at least one digit, and an optional exponent with at
least one digit.  The value is the double nearest to the number written.
-/

namespace TypedVars

/-- Splits a leading sign off; `true` is a minus sign. -/
def splitSign : List Char → Bool × List Char
  | '-' :: cs => (true, cs)
  | '+' :: cs => (false, cs)
  | cs => (false, cs)

/-- The value of a decimal digit character. -/
def digitValue (c : Char) : Nat := c.toNat - '0'.toNat

/-- The value of a run of decimal digits. -/
def decimalValue (cs : List Char) : Nat :=
  cs.foldl (fun n c => 10 * n + digitValue c) 0

/-- The exponent that ends a numeral: nothing, or a letter `e`, an optional sign and digits. -/
def readExponent? : List Char → Option Int
  | [] => some 0
  | c :: cs =>
    if c = 'e' ∨ c = 'E' then
      let (negative, ds) := splitSign cs
      if ds.isEmpty ∨ ¬ ds.all Char.isDigit then none
      else some (if negative then -(decimalValue ds : Int) else decimalValue ds)
    else none

namespace Double

/-- Reads the unsigned decimal numeral that is the whole text. -/
def ofNumeral? (negative : Bool) (cs : List Char) : Option Double :=
  let whole := cs.takeWhile Char.isDigit
  let rest := cs.dropWhile Char.isDigit
  let (fraction, tail) := match rest with
    | '.' :: r => (r.takeWhile Char.isDigit, r.dropWhile Char.isDigit)
    | r => ([], r)
  if whole.isEmpty ∧ fraction.isEmpty then none
  else (readExponent? tail).map fun e =>
    ofDecimal negative (decimalValue (whole ++ fraction)) (e - fraction.length)

/-- Reads a number text, the whole of it. -/
def ofChars? (cs : List Char) : Option Double :=
  let (negative, body) := splitSign cs
  let word := String.ofList (body.map Char.toLower)
  if word = "nan" then some .nan
  else if word = "inf" ∨ word = "infinity" then some (.infinite negative)
  else ofNumeral? negative body

end Double

end TypedVars
