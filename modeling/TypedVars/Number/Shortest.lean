import TypedVars.Number.Double

/-!
# Shortest decimals

A double stands for an interval of reals: those nearer to it than to any other double, the ends
belonging to it exactly when its significand is even.  `Double.shortest` names a finite double by
the decimal with the fewest digits in that interval.

The search goes through the grids `10 ^ k`, from one that is coarser than the double down to finer
ones, and looks at the two grid points around the double; the first grid with one of them inside
the interval wins.  Of two points inside, the nearer is taken, and a tie goes as the caller says.
-/

namespace TypedVars

/-- The decimal `digits * 10 ^ exponent`. -/
structure Decimal where
  digits : Nat
  exponent : Int
  deriving DecidableEq, Repr

/-- Which of two equally near grid points is taken. -/
inductive Tie where
  /-- The one farther from zero. -/
  | away
  /-- The one with an even last digit. -/
  | even
  deriving DecidableEq

namespace Double

/-- The interval of reals that round to the double of magnitude `m * 2 ^ s`, in quarters of a least
unit. -/
structure Reach where
  low : Nat
  high : Nat
  /-- Whether the ends belong to the interval. -/
  closed : Bool

/-- The interval of the double `m * 2 ^ s`.  It reaches half a gap to each side, and the gap below
a power of two is half the one above. -/
def reach (m s : Nat) : Reach where
  low := 4 * (m * Nat.pow 2 s) -
    if m = Nat.pow 2 52 ∧ 0 < s then Nat.pow 2 s else 2 * Nat.pow 2 s
  high := 4 * (m * Nat.pow 2 s) + 2 * Nat.pow 2 s
  closed := m % 2 = 0

/-- Numerator and denominator of `10 ^ k`. -/
def powerOfTen (k : Int) : Nat × Nat :=
  if 0 ≤ k then (Nat.pow 10 k.toNat, 1) else (1, Nat.pow 10 (-k).toNat)

/-- Whether the decimal `c * 10 ^ k` lies in the interval. -/
def Reach.contains (r : Reach) (c : Nat) (k : Int) : Bool :=
  let (num, den) := powerOfTen k
  let x := 4 * c * num * unitsPerOne
  if r.closed then r.low * den ≤ x && x ≤ r.high * den
  else r.low * den < x && x < r.high * den

/-- The point of the grid `10 ^ k` that names the double of magnitude `m * 2 ^ s`, if one does. -/
def onGrid? (tie : Tie) (m s : Nat) (k : Int) : Option Nat :=
  let (num, den) := powerOfTen k
  let value := m * Nat.pow 2 s * den
  let cell := num * unitsPerOne
  let c := value / cell
  match (reach m s).contains c k, (reach m s).contains (c + 1) k with
  | true, true =>
    let r := 2 * (value % cell)
    if r < cell then some c
    else if cell < r then some (c + 1)
    else match tie with
      | .away => some (c + 1)
      | .even => some (if c % 2 = 0 then c else c + 1)
  | true, false => some c
  | false, true => some (c + 1)
  | false, false => none

/-- The first grid with a hit among `10 ^ k`, `10 ^ (k - 1)`, … , at most `fuel` of them. -/
def firstHit? (tie : Tie) (m s : Nat) : Nat → Int → Option Decimal
  | 0, _ => none
  | fuel + 1, k =>
    match onGrid? tie m s k with
    | some c => some ⟨c, k⟩
    | none => firstHit? tie m s fuel (k - 1)

/-- The decimal with the fewest digits that rounds to the double of magnitude `m * 2 ^ s`.

The search starts at the power of ten above the double and could go down to the grid on which the
double itself lies; it ends at most seventeen grids below the double's leading digit. -/
def shortest (tie : Tie) (m s : Nat) : Decimal :=
  let top := digitCount (m * Nat.pow 2 s / unitsPerOne)
  (firstHit? tie m s (top + 1075) top).getD ⟨m * Nat.pow 2 s * Nat.pow 5 1074, -1074⟩

end Double

end TypedVars
