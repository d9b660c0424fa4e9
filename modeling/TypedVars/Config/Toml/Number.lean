import TypedVars.Amount
import TypedVars.Config.Toml.Basic
import TypedVars.Json.Reader
import TypedVars.Number.Literal

/-!
# Numbers and dates in TOML

Integers have 64 bits and may be written in four bases; single underscores may stand between their
digits.  A float that is too large is an error.  Dates and times are checked against the calendar
and the clock.
-/

namespace TypedVars

namespace Toml

/-- Whether digits with underscores are well formed: each underscore is between two digits. -/
def wellSpaced : List Char → Bool
  | [] => false
  | ['_'] => false
  | [_] => true
  | '_' :: _ => false
  | _ :: '_' :: r => wellSpaced r
  | _ :: r => wellSpaced r

/-- Some digits, without their underscores, and the rest. -/
def readDigits? (isDigit : Char → Bool) (cs : List Char) : Option (List Char × List Char) :=
  let run := cs.takeWhile fun c => isDigit c || c == '_'
  if wellSpaced run then some (run.filter (· ≠ '_'), cs.drop run.length) else none

/-- An integer, if it has 64 bits. -/
def integer? (i : Int) : Option Toml :=
  if minInt64 ≤ i ∧ i ≤ maxInt64 then some (integer i) else none

/-- An integer in another base, after the mark of the base. -/
def readInBase? (base : Nat) (cs : List Char) : Option (Toml × List Char) := do
  let isDigit (c : Char) : Bool := ((Json.hexValue? c).filter (· < base)).isSome
  let (digits, r) ← readDigits? isDigit cs
  let n := digits.foldl (fun n c => base * n + (Json.hexValue? c).getD 0) 0
  some (← integer? n, r)

/-! ### Decimal numbers -/

/-- The digits before a point: a zero alone, or digits that do not begin with one. -/
def readWhole? : List Char → Option (List Char × List Char)
  | '0' :: r => some (['0'], r)
  | cs => readDigits? Char.isDigit cs

/-- The part of a float after a point, with the point; there may be none. -/
def readFraction? : List Char → Option (List Char × List Char)
  | '.' :: r => do
    let (digits, r) ← readDigits? Char.isDigit r
    some ('.' :: digits, r)
  | cs => some ([], cs)

/-- The exponent of a float, with its mark; there may be none. -/
def readExponent? : List Char → Option (List Char × List Char)
  | c :: r =>
    if c == 'e' || c == 'E' then
      match r with
      | '+' :: r => do
        let (digits, r) ← readDigits? Char.isDigit r
        some ('e' :: digits, r)
      | '-' :: r => do
        let (digits, r) ← readDigits? Char.isDigit r
        some ('e' :: '-' :: digits, r)
      | r => do
        let (digits, r) ← readDigits? Char.isDigit r
        some ('e' :: digits, r)
    else some ([], c :: r)
  | [] => some ([], [])

/-- The float of a numeral, unless it is too large. -/
def float? (numeral : List Char) : Option Toml := do
  match ← Double.ofChars? numeral with
  | .infinite false => none
  | x => some (float x)

/-- A decimal number after its sign. -/
def readDecimal? (negative : Bool) (cs : List Char) : Option (Toml × List Char) := do
  let (whole, r) ← readWhole? cs
  let (fraction, r) ← readFraction? r
  let (exponent, r) ← readExponent? r
  if fraction.isEmpty && exponent.isEmpty then
    let n : Int := decimalValue whole
    some (← integer? (if negative then -n else n), r)
  else
    let numeral := whole ++ fraction ++ exponent
    some (← float? (if negative then '-' :: numeral else numeral), r)

/-- A number, or one of the words for what is no number. -/
def readSigned? (negative : Bool) : List Char → Option (Toml × List Char)
  | 'i' :: 'n' :: 'f' :: r => some (float (.infinite negative), r)
  | 'n' :: 'a' :: 'n' :: r => some (float .nan, r)
  | cs => readDecimal? negative cs

/-- A number in any form. -/
def readNumber? : List Char → Option (Toml × List Char)
  | '0' :: 'x' :: r => readInBase? 16 r
  | '0' :: 'o' :: r => readInBase? 8 r
  | '0' :: 'b' :: r => readInBase? 2 r
  | '+' :: r => readSigned? false r
  | '-' :: r => readSigned? true r
  | cs => readSigned? false cs

/-! ### Dates and times -/

/-- The number of two digits within bounds, and the rest. -/
def readPair? (least greatest : Nat) : List Char → Option (Nat × List Char)
  | a :: b :: r =>
    let n := decimalValue [a, b]
    if a.isDigit && b.isDigit && least ≤ n && n ≤ greatest then some (n, r) else none
  | _ => none

/-- The number of days of a month. -/
def daysIn (year month : Nat) : Nat :=
  if month = 2 then
    if year % 4 = 0 ∧ (year % 100 ≠ 0 ∨ year % 400 = 0) then 29 else 28
  else if month = 4 ∨ month = 6 ∨ month = 9 ∨ month = 11 then 30
  else 31

/-- The rest after a character. -/
def expect? (c : Char) : List Char → Option (List Char)
  | d :: r => if d = c then some r else none
  | [] => none

/-- Whether a time begins: an hour and a colon. -/
def beginsTime (cs : List Char) : Bool :=
  ((readPair? 0 23 cs).bind fun (_, r) => expect? ':' r).isSome

/-- The rest after a time of day. -/
def readTime? (cs : List Char) : Option (List Char) := do
  let (_, r) ← readPair? 0 23 cs
  let (_, r) ← readPair? 0 59 (← expect? ':' r)
  let (_, r) ← readPair? 0 60 (← expect? ':' r)
  match r with
  | '.' :: d :: r => if d.isDigit then some (r.dropWhile Char.isDigit) else some ('.' :: d :: r)
  | r => some r

/-- The rest after the distance from universal time, which may be left out. -/
def readZone? : List Char → Option (List Char)
  | [] => some []
  | c :: r =>
    if c == 'Z' || c == 'z' then some r
    else if c == '+' || c == '-' then do
      let (_, r) ← readPair? 0 23 r
      let (_, r) ← readPair? 0 59 (← expect? ':' r)
      some r
    else some (c :: r)

/-- The rest after a date after its year, and after the time that may follow it. -/
def readDate? (year : Nat) (cs : List Char) : Option (List Char) := do
  let (month, r) ← readPair? 1 12 cs
  let (_, r) ← readPair? 1 (daysIn year month) (← expect? '-' r)
  match r with
  | c :: time =>
    if (c == 'T' || c == 't' || c == ' ') && beginsTime time then readZone? (← readTime? time)
    else some (c :: time)
  | [] => some []

/-- A date or a time with what was read of the text. -/
def datetimeOf (cs r : List Char) : Toml × List Char :=
  (datetime (String.ofList (cs.take (cs.length - r.length))), r)

/-- A number, a date or a time. -/
def readNumberOrDate? (cs : List Char) : Option (Toml × List Char) :=
  let year := cs.take 4
  if year.length == 4 && year.all Char.isDigit && (cs.drop 4).head? == some '-' then
    (readDate? (decimalValue year) (cs.drop 5)).map (datetimeOf cs)
  else if beginsTime cs then (readTime? cs).map (datetimeOf cs)
  else readNumber? cs

end Toml

end TypedVars
