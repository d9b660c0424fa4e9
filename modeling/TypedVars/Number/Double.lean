/-!
# Doubles

The numbers of the store are the binary64 values of IEEE 754, kept here as exact data: a finite
double is a sign, a significand `m` and a shift `s`, and its magnitude is `m * 2 ^ s` in units of
`2 ^ (-1074)`, the least positive double.  The pair `(m, s)` is *canonical*, so two doubles are the
same value of the type exactly when they are the same double; the two zeros differ in their sign.
There is one NaN: nothing that the store writes shows the sign or the payload of a NaN.

Every rounding in the library goes through `Double.nearest`, which takes a quotient of naturals to
the nearest double, a tie to the even significand.  Integers (`ofInt`), decimal numerals
(`ofDecimal`) and products (`mul`) are exact quotients handed to it.
-/

namespace TypedVars

/-- The significands and shifts that name a finite double: less than 53 bits and as few factors of
two in the shift as the significand allows, so that each magnitude has one name. -/
structure Canonical (m s : Nat) : Prop where
  lt : m < Nat.pow 2 53
  le : s ≤ 2045
  normal : Nat.pow 2 52 ≤ m ∨ s = 0

instance (m s : Nat) : Decidable (Canonical m s) :=
  decidable_of_iff (m < Nat.pow 2 53 ∧ s ≤ 2045 ∧ (Nat.pow 2 52 ≤ m ∨ s = 0))
    ⟨fun ⟨h₁, h₂, h₃⟩ => ⟨h₁, h₂, h₃⟩, fun ⟨h₁, h₂, h₃⟩ => ⟨h₁, h₂, h₃⟩⟩

/-- A double. -/
inductive Double where
  /-- Not a number. -/
  | nan
  /-- An infinity. -/
  | infinite (negative : Bool)
  /-- A finite value of magnitude `m * 2 ^ s` in units of `2 ^ (-1074)`. -/
  | finite (negative : Bool) (m s : Nat) (canonical : Canonical m s)
  deriving DecidableEq

namespace Double

/-- The number of least units in one: magnitudes are counted in units of `2 ^ (-1074)`. -/
def unitsPerOne : Nat := Nat.pow 2 1074

/-- The zero of a sign. -/
def zero (negative : Bool) : Double :=
  .finite negative 0 0 ⟨by decide, by decide, .inr rfl⟩

instance : Inhabited Double := ⟨zero false⟩

/-- Neither NaN nor an infinity. -/
def isFinite : Double → Bool
  | .finite .. => true
  | _ => false

/-- The magnitude of a finite double in least units. -/
def units : Double → Nat
  | .finite _ m s _ => m * Nat.pow 2 s
  | _ => 0

/-- The double with a significand and a shift; beyond the largest shift, the infinity. -/
def ofParts (negative : Bool) (m s : Nat) : Double :=
  if h : Canonical m s then .finite negative m s h else .infinite negative

/-- The integer nearest to `num / den`, a tie to the even one. -/
def roundHalfEven (num den : Nat) : Nat :=
  let q := num / den
  let r := 2 * (num % den)
  if r < den then q else if den < r then q + 1 else if q % 2 = 0 then q else q + 1

/-- The shift of the doubles around `num / den`: the least one that leaves the significand below
53 bits. -/
def shiftFor (num den : Nat) : Nat :=
  (num * unitsPerOne / den).log2 - 52

/-- The double nearest to `num / den`, a tie to the even significand; too large a quotient gives an
infinity. -/
def nearest (negative : Bool) (num den : Nat) : Double :=
  let s := shiftFor num den
  let m := roundHalfEven (num * unitsPerOne) (den * Nat.pow 2 s)
  if m = Nat.pow 2 53 then ofParts negative (Nat.pow 2 52) (s + 1) else ofParts negative m s

/-- The double nearest to an integer. -/
def ofInt (i : Int) : Double :=
  nearest (i < 0) i.natAbs 1

/-- The number of decimal digits of a natural number, `1` for zero. -/
def digitCount (n : Nat) : Nat :=
  (Nat.toDigits 10 n).length

/-- The double nearest to `digits * 10 ^ exponent`.

A numeral far outside the range of doubles is settled from its number of digits alone, before any
power of ten is formed: at `10 ^ 310` and above it is infinite, below `10 ^ (-330)` it is zero. -/
def ofDecimal (negative : Bool) (digits : Nat) (exponent : Int) : Double :=
  if digits = 0 then zero negative
  else if exponent + digitCount digits > 310 then .infinite negative
  else if exponent + digitCount digits < -330 then zero negative
  else if 0 ≤ exponent then nearest negative (digits * Nat.pow 10 exponent.toNat) 1
  else nearest negative digits (Nat.pow 10 (-exponent).toNat)

/-- The product, rounded once. -/
def mul : Double → Double → Double
  | .finite n m s _, .finite n' m' s' _ =>
    nearest (n ^^ n') (m * Nat.pow 2 s * (m' * Nat.pow 2 s')) (unitsPerOne * unitsPerOne)
  | .nan, _ => .nan
  | _, .nan => .nan
  | .infinite n, .infinite n' => .infinite (n ^^ n')
  | .infinite n, .finite n' m _ _ => if m = 0 then .nan else .infinite (n ^^ n')
  | .finite n m _ _, .infinite n' => if m = 0 then .nan else .infinite (n ^^ n')

/-- The integer part of a finite double, toward zero. -/
def truncate? : Double → Option Int
  | .finite negative m s _ =>
    let whole : Nat := m * Nat.pow 2 s / unitsPerOne
    some (if negative then -(whole : Int) else whole)
  | _ => none

end Double

end TypedVars
