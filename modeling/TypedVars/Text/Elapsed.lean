/-!
# Time limits in text

Time is counted in whole milliseconds.  A limit is shown in seconds when it has one whole second,
with as many decimal places as it needs, otherwise in milliseconds; no time at all is `0ns`.
-/

namespace TypedVars

/-- The thousandths after the point, without trailing zeros. -/
def thousandths (n : Nat) : List Char :=
  if n = 0 then []
  else if n % 100 = 0 then '.' :: Nat.toDigits 10 (n / 100)
  else if n % 10 = 0 then
    '.' :: (List.replicate (2 - (Nat.toDigits 10 (n / 10)).length) '0' ++ Nat.toDigits 10 (n / 10))
  else '.' :: (List.replicate (3 - (Nat.toDigits 10 n).length) '0' ++ Nat.toDigits 10 n)

/-- The text of a time limit. -/
def elapsedText (ms : Nat) : String :=
  if ms = 0 then "0ns"
  else if ms < 1000 then String.ofList (Nat.toDigits 10 ms) ++ "ms"
  else String.ofList (Nat.toDigits 10 (ms / 1000) ++ thousandths (ms % 1000)) ++ "s"

end TypedVars
