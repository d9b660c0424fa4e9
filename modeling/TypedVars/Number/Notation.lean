import TypedVars.Number.Shortest

/-!
# Written numbers

A double is written with the digits of `Double.shortest`, in one of two layouts.

* `Double.text` is positional at every size: no exponent, no point in an integral value, `NaN`,
  `inf` and `-inf` for the rest.  It is the form in which numbers are stored and shown.
* `Double.jsonText?` is the form of numbers in JSON: an integral value keeps `.0`, the exponent
  appears outside `10 ^ (-5)` to `10 ^ 15`, and what is not finite has no form.

The two differ also in a tie between two equally near shortest decimals: the stored form goes away
from zero, the form in JSON to the even digit.
-/

namespace TypedVars

namespace Decimal

/-- The digits as characters, most significant first. -/
def chars (d : Decimal) : List Char := Nat.toDigits 10 d.digits

/-- The exponent of the leading digit. -/
def leading (d : Decimal) : Int := d.exponent + d.chars.length - 1

/-- The decimal without an exponent; an integral value is followed by `suffix`. -/
def positional (suffix : List Char) (d : Decimal) : List Char :=
  let ds := d.chars
  if 0 ≤ d.exponent then
    ds ++ List.replicate d.exponent.toNat '0' ++ suffix
  else
    let places := (-d.exponent).toNat
    if places < ds.length then
      ds.take (ds.length - places) ++ '.' :: ds.drop (ds.length - places)
    else
      '0' :: '.' :: List.replicate (places - ds.length) '0' ++ ds

/-- The decimal with one digit before the point and a signed exponent. -/
def scientific (d : Decimal) : List Char :=
  let mantissa := match d.chars with
    | [] => []
    | [c] => [c]
    | c :: cs => c :: '.' :: cs
  let sign := if d.leading < 0 then '-' else '+'
  mantissa ++ 'e' :: sign :: Nat.toDigits 10 d.leading.natAbs

end Decimal

namespace Double

/-- A minus sign for a negative number. -/
def signChars (negative : Bool) : List Char := if negative then ['-'] else []

/-- The characters of `Double.text`. -/
def chars : Double → List Char
  | .nan => ['N', 'a', 'N']
  | .infinite negative => signChars negative ++ ['i', 'n', 'f']
  | .finite negative m s _ =>
    signChars negative ++ if m = 0 then ['0'] else (shortest .away m s).positional []

/-- The stored form of a number. -/
def text (x : Double) : String := String.ofList x.chars

/-- The exponents of the leading digit that JSON writes without an exponent. -/
def plainInJson (e : Int) : Bool := -5 ≤ e && e ≤ 15

/-- The characters of a finite number in JSON. -/
def jsonChars? : Double → Option (List Char)
  | .finite negative m s _ =>
    some (signChars negative ++
      if m = 0 then ['0', '.', '0']
      else
        let d := shortest .even m s
        if plainInJson d.leading then d.positional ['.', '0'] else d.scientific)
  | _ => none

/-- The form of a number in JSON, if it has one. -/
def jsonText? (x : Double) : Option String := x.jsonChars?.map String.ofList

end Double

end TypedVars
