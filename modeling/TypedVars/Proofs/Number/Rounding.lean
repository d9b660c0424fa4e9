import Mathlib
import TypedVars.Number.Shortest

/-!
# Rounding to the nearest double

A double stands for an interval of quotients, its `reach`, and rounding takes each of them to it:
`nearest_of_covers` says so for every positive magnitude.  A double is itself one of the quotients
of its interval, so a quotient that is exactly a double is rounded to that double
(`nearest_of_eq`).

The proof goes by where the quotient lies.  Its shift is that of the double, unless the double is a
power of two and the quotient is below it; there the doubles are twice as dense, and the rounding
carries into the next power of two.
-/

namespace TypedVars

namespace Double

variable {m s num den : Nat} {negative : Bool}

lemma unitsPerOne_eq : unitsPerOne = 2 ^ 1074 := Nat.pow_eq

lemma unitsPerOne_pos : 0 < unitsPerOne := by
  rw [unitsPerOne_eq]
  exact Nat.two_pow_pos _

/-! ## Ties to even -/

/-- The integers to which a quotient is rounded: those at most half away, and the even one of two
that are exactly half away. -/
lemma roundHalfEven_eq (hden : 0 < den) (hlow : 2 * (m * den) ≤ 2 * num + den)
    (hhigh : 2 * num ≤ 2 * (m * den) + den)
    (hodd : m % 2 = 1 → 2 * (m * den) < 2 * num + den ∧ 2 * num < 2 * (m * den) + den) :
    roundHalfEven num den = m := by
  have hdiv : den * (num / den) + num % den = num := Nat.div_add_mod num den
  have hmod : num % den < den := Nat.mod_lt _ hden
  unfold roundHalfEven
  generalize num / den = q at *
  generalize num % den = r at *
  have hcomm : den * q = q * den := Nat.mul_comm den q
  have hle : q ≤ m := by
    by_contra hgt
    have hstep : (m + 1) * den ≤ q * den := Nat.mul_le_mul_right den (by omega)
    rw [Nat.add_mul] at hstep
    omega
  have hge : m ≤ q + 1 := by
    by_contra hgt
    have hstep : (q + 2) * den ≤ m * den := Nat.mul_le_mul_right den (by omega)
    rw [Nat.add_mul] at hstep
    omega
  rcases (by omega : m = q ∨ m = q + 1) with rfl | rfl
  · dsimp only
    split
    · rfl
    · split
      · omega
      · split <;> omega
  · rw [Nat.add_mul] at hlow hhigh hodd
    dsimp only
    split
    · omega
    · split
      · rfl
      · split <;> omega

/-! ## The shift of a quotient -/

/-- A quotient has the shift of the doubles around it. -/
lemma shiftFor_eq (hden : 0 < den) (hhigh : num * unitsPerOne < 2 ^ 53 * (2 ^ s * den))
    (hlow : 2 ^ 52 * (2 ^ s * den) ≤ num * unitsPerOne ∨ s = 0) : shiftFor num den = s := by
  unfold shiftFor
  generalize num * unitsPerOne = n at *
  have hlt : n / den < 2 ^ (53 + s) := by
    rw [Nat.div_lt_iff_lt_mul hden, Nat.pow_add, Nat.mul_assoc]
    exact hhigh
  by_cases hzero : n / den = 0
  · rcases hlow with hlow | rfl
    · have hpos : 0 < 2 ^ 52 * (2 ^ s * den) :=
        Nat.mul_pos (by decide) (Nat.mul_pos (Nat.two_pow_pos s) hden)
      have hge : 2 ^ 52 * 2 ^ s ≤ n / den := by
        rw [Nat.le_div_iff_mul_le hden, Nat.mul_assoc]
        exact hlow
      have hpos' : 0 < 2 ^ 52 * 2 ^ s := Nat.mul_pos (by decide) (Nat.two_pow_pos s)
      omega
    · rw [hzero]
      rfl
  · have hlog := (Nat.log2_lt hzero).2 hlt
    rcases hlow with hlow | rfl
    · have hge : 2 ^ (52 + s) ≤ n / den := by
        rw [Nat.le_div_iff_mul_le hden, Nat.pow_add, Nat.mul_assoc]
        exact hlow
      have hlog' := (Nat.le_log2 hzero).2 hge
      omega
    · omega

/-! ## The interval of a double -/

/-- The quotient `num / den` lies in an interval. -/
def Reach.Covers (r : Reach) (num den : Nat) : Prop :=
  if r.closed then r.low * den ≤ 4 * (num * unitsPerOne) ∧ 4 * (num * unitsPerOne) ≤ r.high * den
  else r.low * den < 4 * (num * unitsPerOne) ∧ 4 * (num * unitsPerOne) < r.high * den

/-- The ends of the interval of a double, times the denominator of a quotient. -/
lemma reach_mul (m s den : Nat) :
    (reach m s).low * den = 4 * (m * (2 ^ s * den)) -
      (if m = 2 ^ 52 ∧ 0 < s then 2 ^ s * den else 2 * (2 ^ s * den)) ∧
    (reach m s).high * den = 4 * (m * (2 ^ s * den)) + 2 * (2 ^ s * den) ∧
    (reach m s).closed = decide (m % 2 = 0) := by
  refine ⟨?_, ?_, rfl⟩
  · simp only [reach, Nat.pow_eq, Nat.sub_mul]
    split <;> simp only [Nat.mul_assoc]
  · simp only [reach, Nat.pow_eq, Nat.add_mul, Nat.mul_assoc]

/-- A quotient near a double, in units of the double's last place over `den`: at most half a place
away, at most a quarter below a power of two, and not exactly so when the significand is odd. -/
structure Near (m s num den : Nat) : Prop where
  low : 2 * (m * (2 ^ s * den)) ≤ 2 * (num * unitsPerOne) + 2 ^ s * den
  high : 2 * (num * unitsPerOne) ≤ 2 * (m * (2 ^ s * den)) + 2 ^ s * den
  odd : m % 2 = 1 → 2 * (m * (2 ^ s * den)) < 2 * (num * unitsPerOne) + 2 ^ s * den ∧
    2 * (num * unitsPerOne) < 2 * (m * (2 ^ s * den)) + 2 ^ s * den
  power : m = 2 ^ 52 → 0 < s →
    4 * (m * (2 ^ s * den)) ≤ 4 * (num * unitsPerOne) + 2 ^ s * den

lemma Reach.Covers.near (h : (reach m s).Covers num den) : Near m s num den := by
  obtain ⟨hlow, hhigh, hclosed⟩ := reach_mul m s den
  unfold Reach.Covers at h
  rw [hlow, hhigh, hclosed] at h
  by_cases hpower : m = 2 ^ 52 ∧ 0 < s
  · rw [if_pos hpower] at h
    split at h <;> rename_i heven <;> simp only [decide_eq_true_eq] at heven <;>
      exact ⟨by omega, by omega, fun _ => by omega, fun _ _ => by omega⟩
  · rw [if_neg hpower] at h
    split at h <;> rename_i heven <;> simp only [decide_eq_true_eq] at heven <;>
      exact ⟨by omega, by omega, fun _ => by omega, fun hm hs => absurd ⟨hm, hs⟩ hpower⟩

/-- A quotient that is exactly a positive double lies in its interval. -/
lemma covers_of_eq (hm : 0 < m) (hden : 0 < den) (heq : num * unitsPerOne = m * (2 ^ s * den)) :
    (reach m s).Covers num den := by
  obtain ⟨hlow, hhigh, -⟩ := reach_mul m s den
  have hd : 0 < 2 ^ s * den := Nat.mul_pos (Nat.two_pow_pos s) hden
  have hx : 0 < m * (2 ^ s * den) := Nat.mul_pos hm hd
  unfold Reach.Covers
  rw [hlow, hhigh, heq]
  split <;> split <;> omega

/-! ## Rounding -/

lemma ofParts_of_canonical (h : Canonical m s) : ofParts negative m s = .finite negative m s h :=
  dif_pos h

/-- Rounding carries into a power of two from the denser doubles below it. -/
lemma nearest_below_power (h : Canonical (2 ^ 52) (s + 1)) (hden : 0 < den)
    (hnear : Near (2 ^ 52) (s + 1) num den)
    (hbelow : num * unitsPerOne < 2 ^ 52 * (2 ^ (s + 1) * den)) :
    nearest negative num den = .finite negative (2 ^ 52) (s + 1) h := by
  have hd : 0 < 2 ^ s * den := Nat.mul_pos (Nat.two_pow_pos s) hden
  have hdouble : 2 ^ (s + 1) * den = 2 * (2 ^ s * den) := by
    rw [Nat.pow_succ, Nat.mul_comm (2 ^ s) 2, Nat.mul_assoc]
  have hquarter := hnear.power rfl (Nat.succ_pos s)
  rw [hdouble] at hbelow hquarter
  have hshift : shiftFor num den = s := shiftFor_eq hden (by omega) (.inl (by omega))
  have hround : roundHalfEven (num * unitsPerOne) (den * 2 ^ s) = 2 ^ 53 := by
    rw [Nat.mul_comm den]
    apply roundHalfEven_eq hd (by omega) (by omega)
    intro hodd
    exact absurd hodd (by decide)
  simp only [nearest, hshift, Nat.pow_eq, hround, if_true]
  exact ofParts_of_canonical h

/-- Every quotient in the interval of a double is rounded to that double. -/
theorem nearest_of_covers (h : Canonical m s) (hden : 0 < den)
    (hcovers : (reach m s).Covers num den) :
    nearest negative num den = .finite negative m s h := by
  have hnear := hcovers.near
  have hlt : m < 2 ^ 53 := h.lt
  have hd : 0 < 2 ^ s * den := Nat.mul_pos (Nat.two_pow_pos s) hden
  by_cases hbelow : m = 2 ^ 52 ∧ 0 < s ∧ num * unitsPerOne < 2 ^ 52 * (2 ^ s * den)
  · obtain ⟨rfl, hs, hbelow⟩ := hbelow
    obtain ⟨s, rfl⟩ : ∃ s', s = s' + 1 := ⟨s - 1, by omega⟩
    exact nearest_below_power h hden hnear hbelow
  · have hsig : m * (2 ^ s * den) ≤ (2 ^ 53 - 1) * (2 ^ s * den) :=
      Nat.mul_le_mul_right _ (by omega)
    have hhigh := hnear.high
    have hge : 2 ^ 52 * (2 ^ s * den) ≤ num * unitsPerOne ∨ s = 0 := by
      rcases Nat.eq_zero_or_pos s with hs | hs
      · exact .inr hs
      · rcases (by omega : m = 2 ^ 52 ∨ m < 2 ^ 52 ∨ 2 ^ 52 + 1 ≤ m) with hm | hm | hm
        · exact .inl (Nat.le_of_not_lt fun hlt => hbelow ⟨hm, hs, hlt⟩)
        · rcases h.normal with hnormal | hs'
          · simp only [Nat.pow_eq] at hnormal
            omega
          · exact .inr hs'
        · have hmore : (2 ^ 52 + 1) * (2 ^ s * den) ≤ m * (2 ^ s * den) :=
            Nat.mul_le_mul_right _ hm
          have hlow := hnear.low
          exact .inl (by omega)
    have hshift : shiftFor num den = s := shiftFor_eq hden (by omega) hge
    have hround : roundHalfEven (num * unitsPerOne) (den * 2 ^ s) = m := by
      rw [Nat.mul_comm den]
      exact roundHalfEven_eq hd hnear.low hnear.high hnear.odd
    have hcarry : m ≠ 2 ^ 53 := by omega
    simp only [nearest, hshift, Nat.pow_eq, hround, if_neg hcarry]
    exact ofParts_of_canonical h

lemma nearest_zero (hden : 0 < den) : nearest negative 0 den = zero negative := by
  apply nearest_of_covers _ hden
  obtain ⟨hlow, -, -⟩ := reach_mul 0 0 den
  have hclosed : (reach 0 0).closed = true := rfl
  simp [Reach.Covers, hlow, hclosed]

/-- A quotient that is exactly a positive double is rounded to that double. -/
lemma nearest_of_eq (h : Canonical m s) (hm : 0 < m) (hden : 0 < den)
    (heq : num * unitsPerOne = m * (2 ^ s * den)) :
    nearest negative num den = .finite negative m s h :=
  nearest_of_covers h hden (covers_of_eq hm hden heq)

end Double

end TypedVars
