import TypedVars.Json.Basic
import TypedVars.Text.Blank
import TypedVars.Value.Basic

/-!
# Increment amounts

A variable can be incremented by an amount of many kinds, and each amount counts as one integer of
64 bits, its *delta*.  Integers count as themselves, doubles are truncated toward zero, a text
counts as the integer it begins with, and what has no such reading counts as zero.  Nothing wraps:
all arithmetic stops at the two bounds.

The same readings serve for the value that an increment adds to (`Value.integer?`), except that a
value without an integer is told apart from zero.
-/

namespace TypedVars

/-- The least integer of 64 bits. -/
def minInt64 : Int := -9223372036854775808

/-- The greatest integer of 64 bits. -/
def maxInt64 : Int := 9223372036854775807

/-- The nearest integer of 64 bits. -/
def clamp (i : Int) : Int := max minInt64 (min maxInt64 i)

/-- The integer part of a finite double, clamped. -/
def Double.toInt64? (x : Double) : Option Int := x.truncate?.map clamp

/-- One more digit behind an integer that grows away from zero, clamped at each step. -/
def pushDigit (negative : Bool) (acc : Int) (c : Char) : Int :=
  let d : Int := digitValue c
  clamp (clamp (acc * 10) + if negative then -d else d)

/-- The integer that a text begins with, after white space: an optional sign and the run of decimal
digits that follows. -/
def leadingInt? (s : String) : Option Int :=
  let (negative, body) := splitSign (trimStart s.toList)
  let digits := body.takeWhile Char.isDigit
  if digits.isEmpty then none else some (digits.foldl (pushDigit negative) 0)

/-- The integer that an increment adds to, if the value has one. -/
def Value.integer? : Value → Option Int
  | .number x => x.toInt64?
  | .string s => leadingInt? s
  | .boolean _ => none

/-- An amount to increment by. -/
inductive Amount where
  | int64 (i : Int64)
  | int32 (i : Int32)
  | uint32 (n : UInt32)
  | double (x : Double)
  | text (s : String)
  | json (j : Json)
  /-- An optional amount that is missing. -/
  | missing
  /-- An optional amount that is given. -/
  | given (a : Amount)

namespace Amount

/-- The delta of a JSON number: exact when it is an integer of 64 bits with a sign. -/
def numberDelta : JsonNumber → Int
  | .int i => if minInt64 ≤ i ∧ i ≤ maxInt64 then i else ((Double.ofInt i).toInt64?).getD 0
  | .double x => x.toInt64?.getD 0

/-- The integer that an amount counts as. -/
def delta : Amount → Int
  | .int64 i => i.toInt
  | .int32 i => i.toInt
  | .uint32 n => n.toNat
  | .double x => x.toInt64?.getD 0
  | .text s => (leadingInt? s).getD 0
  | .json (.number n) => numberDelta n
  | .json (.string s) => (leadingInt? s).getD 0
  | .json _ => 0
  | .missing => 0
  | .given a => a.delta

end Amount

end TypedVars
