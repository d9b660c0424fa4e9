import TypedVars.Proofs.Number.Integer

/-!
# The nearest double

A finite double is a rational number (`Double.value`).  The double that rounding gives for a number
is at least as near to it as any other; where another one is as near, the significand is even, and
the sign is that of the number (`Double.IsNearest`).  This is so for every quotient in the interval
of the double (`isNearest_of_near`), and every integer lies in the interval of some double
(`exists_covers`), so `ofInt` gives the nearest one (`isNearest_ofInt`).

The integer part of a finite double is its value without the fraction, toward zero
(`truncate?_eq_towardZero`).
-/

namespace TypedVars

/-- A number without its fraction. -/
def towardZero (q : ℚ) : ℤ := if q < 0 then ⌈q⌉ else ⌊q⌋

namespace Double

variable {m s m' s' num den : ℕ} {negative : Bool}

/-! ## The value of a double -/

/-- The sign bit of a finite double. -/
def isNegative : Double → Bool
  | .finite negative .. => negative
  | _ => false

/-- Whether the significand is even. -/
def isEven : Double → Bool
  | .finite _ m _ _ => m % 2 = 0
  | _ => false

/-- A natural number with a sign. -/
def signed (negative : Bool) (n : ℕ) : ℤ := if negative then -(n : ℤ) else n

/-- A finite double in least units. -/
def signedUnits (x : Double) : ℤ := signed x.isNegative x.units

/-- The number that a finite double is. -/
def value (x : Double) : ℚ := x.signedUnits / unitsPerOne

lemma truncate?_eq_towardZero {x : Double} (h : x.isFinite = true) :
    x.truncate? = some (towardZero x.value) := by
  cases x with
  | nan | infinite negative => cases h
  | finite negative m s hc =>
    have hfloor : ⌊((m * 2 ^ s : ℕ) : ℚ) / unitsPerOne⌋ = ((m * 2 ^ s / unitsPerOne : ℕ) : ℤ) := by
      rw [← Int.cast_natCast (m * 2 ^ s), Rat.floor_intCast_div_natCast, Int.natCast_ediv]
    have hnonneg : (0 : ℚ) ≤ ((m * 2 ^ s : ℕ) : ℚ) / unitsPerOne :=
      div_nonneg (Nat.cast_nonneg _) (Nat.cast_nonneg _)
    simp only [truncate?, value, signedUnits, signed, isNegative, units, Nat.pow_eq,
      Option.some.injEq]
    cases negative with
    | false =>
      simp only [Bool.false_eq_true, if_false, Int.cast_natCast]
      rw [towardZero, if_neg (not_lt.2 hnonneg), hfloor]
    | true =>
      simp only [if_true, Int.cast_neg, Int.cast_natCast, neg_div]
      rw [towardZero]
      split
      · rw [Int.ceil_neg, hfloor]
      · next hzero =>
        have heq : ((m * 2 ^ s : ℕ) : ℚ) / unitsPerOne = 0 := by linarith
        rw [heq, Int.floor_zero] at hfloor
        rw [heq, neg_zero, Int.floor_zero, ← hfloor, neg_zero]

/-! ## The doubles around a double -/

lemma units_above (h : Canonical m s) (h' : Canonical m' s') (hlt : m * 2 ^ s < m' * 2 ^ s') :
    m * 2 ^ s + 2 ^ s ≤ m' * 2 ^ s' := by
  have hplace : 0 < 2 ^ s := Nat.two_pow_pos s
  rcases (Nat.lt_or_ge s' s).symm with hs | hs
  · -- the coarser ones stand on the grid of the finer one
    obtain ⟨k, rfl⟩ := Nat.exists_eq_add_of_le hs
    have hgrid : m' * 2 ^ (s + k) = m' * 2 ^ k * 2 ^ s := by ring
    rw [hgrid] at hlt ⊢
    have hstep : (m + 1) * 2 ^ s ≤ m' * 2 ^ k * 2 ^ s :=
      Nat.mul_le_mul_right _ (Nat.lt_of_mul_lt_mul_right hlt)
    rwa [Nat.add_mul, Nat.one_mul] at hstep
  · exfalso
    obtain ⟨k, rfl⟩ := Nat.exists_eq_add_of_lt hs
    have hnormal : 2 ^ 52 ≤ m := by
      rcases h.normal with hnormal | hzero
      · exact hnormal
      · omega
    have hsig : m' < 2 ^ 53 := h'.lt
    have hlow : 2 ^ 52 * 2 ^ (s' + k + 1) ≤ m * 2 ^ (s' + k + 1) := Nat.mul_le_mul_right _ hnormal
    have hhigh : m' * 2 ^ s' ≤ 2 ^ 53 * 2 ^ (s' + k) :=
      Nat.mul_le_mul (Nat.le_of_lt hsig) (Nat.pow_le_pow_right (by decide) (by omega))
    have htwice : 2 ^ (s' + k + 1) = 2 * 2 ^ (s' + k) := by ring
    omega

/-- The doubles below a double are at least one of its places away.  A power of two is the exception:
below it the places are half as large, unless they are the least that there are. -/
lemma units_below (h : Canonical m s) (h' : Canonical m' s') (hlt : m' * 2 ^ s' < m * 2 ^ s) :
    m' * 2 ^ s' + 2 ^ s ≤ m * 2 ^ s ∨
      m = 2 ^ 52 ∧ 0 < s ∧ 2 * (m' * 2 ^ s') + 2 ^ s ≤ 2 * (m * 2 ^ s) := by
  rcases (Nat.lt_or_ge s' s).symm with hs | hs
  · obtain ⟨k, rfl⟩ := Nat.exists_eq_add_of_le hs
    have hgrid : m' * 2 ^ (s + k) = m' * 2 ^ k * 2 ^ s := by ring
    rw [hgrid] at hlt ⊢
    have hstep : (m' * 2 ^ k + 1) * 2 ^ s ≤ m * 2 ^ s :=
      Nat.mul_le_mul_right _ (Nat.lt_of_mul_lt_mul_right hlt)
    rw [Nat.add_mul, Nat.one_mul] at hstep
    exact .inl hstep
  · obtain ⟨k, rfl⟩ := Nat.exists_eq_add_of_lt hs
    have hnormal : 2 ^ 52 ≤ m := by
      rcases h.normal with hnormal | hzero
      · exact hnormal
      · omega
    have hsig : m' < 2 ^ 53 := h'.lt
    have hhigh : m' * 2 ^ s' ≤ (2 ^ 53 - 1) * 2 ^ (s' + k) :=
      Nat.mul_le_mul (by omega) (Nat.pow_le_pow_right (by decide) (by omega))
    have htwice : 2 ^ (s' + k + 1) = 2 * 2 ^ (s' + k) := by ring
    rcases Nat.eq_or_lt_of_le hnormal with rfl | hmore
    · exact .inr ⟨rfl, by omega, by omega⟩
    · have hlow : (2 ^ 52 + 1) * 2 ^ (s' + k + 1) ≤ m * 2 ^ (s' + k + 1) :=
        Nat.mul_le_mul_right _ hmore
      exact .inl (by omega)

/-- A quotient near a double is at least as near to it as to any other double, and the significand
is even where another one is as near.  `Near` looks only at the places next to the double, so what
is to be shown is that all other doubles are beyond them. -/
lemma Near.nearer (hnear : Near m s num den) (h : Canonical m s) (h' : Canonical m' s') :
    |((m * 2 ^ s * den : ℕ) : ℤ) - (num * unitsPerOne : ℕ)| ≤
        |((m' * 2 ^ s' * den : ℕ) : ℤ) - (num * unitsPerOne : ℕ)| ∧
      (|((m' * 2 ^ s' * den : ℕ) : ℤ) - (num * unitsPerOne : ℕ)| =
          |((m * 2 ^ s * den : ℕ) : ℤ) - (num * unitsPerOne : ℕ)| →
        m' * 2 ^ s' * den ≠ m * 2 ^ s * den → m % 2 = 0) := by
  obtain ⟨hlow, hhigh, hodd, hpower⟩ := hnear
  have hassoc : m * (2 ^ s * den) = m * 2 ^ s * den := (Nat.mul_assoc ..).symm
  rw [hassoc] at hlow hhigh hodd hpower
  have habove : m * 2 ^ s < m' * 2 ^ s' →
      m * 2 ^ s * den + 2 ^ s * den ≤ m' * 2 ^ s' * den := by
    intro hlt
    rw [← Nat.add_mul]
    exact Nat.mul_le_mul_right _ (units_above h h' hlt)
  have hbelow : m' * 2 ^ s' < m * 2 ^ s →
      m' * 2 ^ s' * den + 2 ^ s * den ≤ m * 2 ^ s * den ∨
        m = 2 ^ 52 ∧ 0 < s ∧ 2 * (m' * 2 ^ s' * den) + 2 ^ s * den ≤ 2 * (m * 2 ^ s * den) := by
    intro hlt
    rcases units_below h h' hlt with hfar | ⟨hm, hs, hfar⟩
    · rw [← Nat.add_mul]
      exact .inl (Nat.mul_le_mul_right _ hfar)
    · have hmul := Nat.mul_le_mul_right den hfar
      rw [Nat.add_mul, Nat.mul_assoc, Nat.mul_assoc 2] at hmul
      exact .inr ⟨hm, hs, hmul⟩
  rcases Nat.lt_trichotomy (m' * 2 ^ s') (m * 2 ^ s) with hlt | heq | hlt
  · have hfar := hbelow hlt
    generalize m * 2 ^ s * den = v at *
    generalize m' * 2 ^ s' * den = v' at *
    generalize 2 ^ s * den = p at *
    generalize num * unitsPerOne = r at *
    rcases abs_cases ((v : ℤ) - r) with hv | hv <;>
      rcases abs_cases ((v' : ℤ) - r) with hv' | hv' <;>
      omega
  · rw [heq]
    exact ⟨le_rfl, fun _ hne => absurd rfl hne⟩
  · have hfar := habove hlt
    generalize m * 2 ^ s * den = v at *
    generalize m' * 2 ^ s' * den = v' at *
    generalize 2 ^ s * den = p at *
    generalize num * unitsPerOne = r at *
    rcases abs_cases ((v : ℤ) - r) with hv | hv <;>
      rcases abs_cases ((v' : ℤ) - r) with hv' | hv' <;>
      omega

/-! ## Signs -/

lemma signed_mul (negative : Bool) (n k : ℕ) : signed negative n * k = signed negative (n * k) := by
  cases negative <;> simp [signed]

lemma abs_signed_sub (negative : Bool) (n k : ℕ) :
    |signed negative n - signed negative k| = |(n : ℤ) - k| := by
  cases negative with
  | false => rfl
  | true =>
    have hneg : -(n : ℤ) - -(k : ℤ) = -((n : ℤ) - k) := by ring
    simp only [signed, if_true, hneg, abs_neg]

lemma abs_signed_sub_of_ne {negative' : Bool} (h : negative' ≠ negative) (n k : ℕ) :
    |signed negative' n - signed negative k| = n + k := by
  have hsum : |(n : ℤ) + k| = n + k := abs_of_nonneg (by omega)
  cases negative with
  | false =>
    have hneg : -(n : ℤ) - k = -((n : ℤ) + k) := by ring
    rw [Bool.eq_true_of_not_eq_false h]
    simp only [signed, if_true, Bool.false_eq_true, if_false, hneg, abs_neg, hsum]
  | true =>
    rw [Bool.eq_false_of_not_eq_true h]
    simp only [signed, if_true, Bool.false_eq_true, if_false, sub_neg_eq_add, hsum]

lemma Near.nearer_signed (hnear : Near m s num den) (h : Canonical m s) {y : Double}
    (hy : y.isFinite = true) :
    |signed negative (m * 2 ^ s) * den - signed negative num * unitsPerOne| ≤
        |y.signedUnits * den - signed negative num * unitsPerOne| ∧
      (|y.signedUnits * den - signed negative num * unitsPerOne| =
          |signed negative (m * 2 ^ s) * den - signed negative num * unitsPerOne| →
        y.signedUnits * den ≠ signed negative (m * 2 ^ s) * den → m % 2 = 0) := by
  cases y with
  | nan | infinite negative' => cases hy
  | finite negative' m' s' h' =>
    simp only [signedUnits, isNegative, units, Nat.pow_eq, signed_mul, abs_signed_sub]
    by_cases hsame : negative' = negative
    · subst hsame
      rw [abs_signed_sub]
      obtain ⟨hle, heven⟩ := hnear.nearer h h'
      exact ⟨hle, fun heq hne => heven heq fun hunits => hne (by rw [hunits])⟩
    · -- a double of the other sign is no nearer than zero
      have hzero : Canonical 0 0 := ⟨by decide, by decide, .inr rfl⟩
      obtain ⟨hle, heven⟩ := hnear.nearer h hzero
      rw [abs_signed_sub_of_ne hsame]
      simp only [Nat.zero_mul, Int.natCast_zero, zero_sub, abs_neg, Nat.abs_cast] at hle heven
      refine ⟨by omega, fun heq hne => heven (by omega) ?_⟩
      intro hunits
      have hnone : m' * 2 ^ s' * den = 0 := by omega
      rw [← hunits, hnone] at hne
      cases negative <;> cases negative' <;> simp [signed] at hne

/-! ## Nearest doubles -/

/-- A double is the one that a number is rounded to: no double is nearer to the number, where
another one is as near the significand is even, and the sign is that of the number. -/
structure IsNearest (x : Double) (q : ℚ) : Prop where
  finite : x.isFinite = true
  le : ∀ y : Double, y.isFinite = true → |x.value - q| ≤ |y.value - q|
  even : ∀ y : Double, y.isFinite = true → |y.value - q| = |x.value - q| → y.value ≠ x.value →
    x.isEven = true
  sign : x.isNegative = true ↔ q < 0

lemma abs_value_sub (x : Double) (n : ℤ) (hden : 0 < den) :
    |x.value - n / den| = (|x.signedUnits * den - n * unitsPerOne| : ℤ) / (unitsPerOne * den) := by
  have hunit : (0 : ℚ) < unitsPerOne := Nat.cast_pos.2 unitsPerOne_pos
  have hden : (0 : ℚ) < den := Nat.cast_pos.2 hden
  have hsplit : x.value - n / den =
      (x.signedUnits * den - n * unitsPerOne) / (unitsPerOne * den) := by
    rw [value, div_sub_div _ _ (ne_of_gt hunit) (ne_of_gt hden), mul_comm (n : ℚ)]
  rw [hsplit, abs_div, abs_of_pos (mul_pos hunit hden)]
  push_cast
  rfl

/-- Every quotient near a double is rounded to that double. -/
theorem isNearest_of_near (h : Canonical m s) (hden : 0 < den) (hnear : Near m s num den)
    (hsign : negative = true → 0 < num) :
    IsNearest (.finite negative m s h) (signed negative num / den) := by
  have hunit : (0 : ℚ) < unitsPerOne := Nat.cast_pos.2 unitsPerOne_pos
  have hden' : (0 : ℚ) < den := Nat.cast_pos.2 hden
  have hscale := mul_pos hunit hden'
  refine ⟨rfl, ?_, ?_, ?_⟩
  · intro y hy
    rw [abs_value_sub _ _ hden, abs_value_sub _ _ hden]
    exact div_le_div_of_nonneg_right (Int.cast_le.2 (hnear.nearer_signed h hy).1) hscale.le
  · intro y hy heq hne
    rw [abs_value_sub _ _ hden, abs_value_sub _ _ hden, div_left_inj' (ne_of_gt hscale),
      Int.cast_inj] at heq
    refine decide_eq_true ((hnear.nearer_signed h hy).2 heq ?_)
    intro hunits
    have hden'' : (den : ℤ) ≠ 0 := by omega
    have hsame : y.signedUnits = signed negative (m * 2 ^ s) := mul_right_cancel₀ hden'' hunits
    exact hne (by rw [value, hsame]; rfl)
  · change negative = true ↔ _
    rw [div_neg_iff]
    cases negative with
    | false => simp [signed, hden'.le]
    | true => simp [signed, hden', hsign rfl]

/-! ## Integers -/

lemma Near.covers (h : Near m s num den) (hden : 0 < den) : (reach m s).Covers num den := by
  obtain ⟨hlow, hhigh, hodd, hpower⟩ := h
  obtain ⟨hlow', hhigh', hclosed⟩ := reach_mul m s den
  have hplace : 0 < 2 ^ s * den := Nat.mul_pos (Nat.two_pow_pos s) hden
  have hfirst : m % 2 = 1 → 2 ^ s * den ≤ m * (2 ^ s * den) := by
    intro hm
    exact Nat.le_mul_of_pos_left _ (by omega)
  unfold Reach.Covers
  rw [hlow', hhigh', hclosed]
  generalize m * (2 ^ s * den) = v at *
  generalize 2 ^ s * den = p at *
  by_cases heven : m % 2 = 0
  · simp only [heven, decide_true, if_true]
    split <;> omega
  · simp only [heven, decide_false, Bool.false_eq_true, if_false]
    split <;> omega

lemma roundHalfEven_near (num : ℕ) (hden : 0 < den) :
    2 * (roundHalfEven num den * den) ≤ 2 * num + den ∧
      2 * num ≤ 2 * (roundHalfEven num den * den) + den ∧
      (roundHalfEven num den % 2 = 1 →
        2 * (roundHalfEven num den * den) < 2 * num + den ∧
          2 * num < 2 * (roundHalfEven num den * den) + den) := by
  have hdiv : den * (num / den) + num % den = num := Nat.div_add_mod num den
  have hmod : num % den < den := Nat.mod_lt _ hden
  have hnext : (num / den + 1) * den = den * (num / den) + den := by ring
  rw [Nat.mul_comm den] at hdiv hnext
  simp only [roundHalfEven]
  generalize num / den = q at *
  generalize num % den = r at *
  split
  · omega
  · split
    · rw [hnext]
      omega
    · split
      · omega
      · rw [hnext]
        omega

lemma near_of_multiple {c t n : ℕ} (hlow : 2 * (c * 2 ^ t) ≤ 2 * n + 2 ^ t)
    (hhigh : 2 * n ≤ 2 * (c * 2 ^ t) + 2 ^ t)
    (hodd : c % 2 = 1 → 2 * (c * 2 ^ t) < 2 * n + 2 ^ t ∧ 2 * n < 2 * (c * 2 ^ t) + 2 ^ t)
    (hpower : c = 2 ^ 52 → 4 * (c * 2 ^ t) ≤ 4 * n + 2 ^ t) : Near c (1074 + t) n 1 := by
  have hplace : 2 ^ (1074 + t) * 1 = 2 ^ t * unitsPerOne := by
    rw [Nat.mul_one, unitsPerOne_eq, ← Nat.pow_add, Nat.add_comm]
  have hunit := unitsPerOne_pos
  refine ⟨?_, ?_, fun hc => ⟨?_, ?_⟩, fun hc _ => ?_⟩ <;> rw [hplace]
  · have hmul := Nat.mul_le_mul_right unitsPerOne hlow
    simpa only [Nat.add_mul, Nat.mul_assoc] using hmul
  · have hmul := Nat.mul_le_mul_right unitsPerOne hhigh
    simpa only [Nat.add_mul, Nat.mul_assoc] using hmul
  · have hmul := Nat.mul_lt_mul_of_pos_right (hodd hc).1 hunit
    simpa only [Nat.add_mul, Nat.mul_assoc] using hmul
  · have hmul := Nat.mul_lt_mul_of_pos_right (hodd hc).2 hunit
    simpa only [Nat.add_mul, Nat.mul_assoc] using hmul
  · have hmul := Nat.mul_le_mul_right unitsPerOne (hpower hc)
    simpa only [Nat.add_mul, Nat.mul_assoc] using hmul

/-- Every positive integer below the largest doubles is in the interval of a double: of its own up to
`2 ^ 53`, and else of the one that is left when it is rounded to its first 53 bits, where the
rounding may carry into the next power of two. -/
lemma exists_covers {n : ℕ} (hpos : 0 < n) (hlog : n.log2 < 1023) :
    ∃ m s, Canonical m s ∧ (reach m s).Covers n 1 := by
  rcases Nat.lt_or_ge (2 ^ 53) n with hlarge | hsmall
  · -- its place is the one that leaves it 53 bits
    have hne : n ≠ 0 := Nat.ne_of_gt hpos
    have hbits : 53 ≤ n.log2 := (Nat.le_log2 hne).2 (Nat.le_of_lt hlarge)
    have hlow : 2 ^ n.log2 ≤ n := Nat.log2_self_le hne
    have hhigh : n < 2 ^ (n.log2 + 1) := Nat.lt_log2_self
    obtain ⟨t, ht⟩ := Nat.exists_eq_add_of_le (Nat.le_of_lt hbits)
    rw [ht, Nat.pow_add] at hlow
    rw [ht, show 52 + t + 1 = 53 + t by omega, Nat.pow_add] at hhigh
    have hplace : 0 < 2 ^ t := Nat.two_pow_pos t
    obtain ⟨hbelow, habove, hodd⟩ := roundHalfEven_near n hplace
    generalize roundHalfEven n (2 ^ t) = c at *
    have hge : 2 ^ 52 ≤ c := by
      have hmul : 2 ^ 53 * 2 ^ t ≤ (2 * c + 1) * 2 ^ t := by
        rw [Nat.add_mul, Nat.mul_assoc]
        omega
      have hle := Nat.le_of_mul_le_mul_right hmul hplace
      omega
    have hle : c ≤ 2 ^ 53 := by
      have hmul : 2 * c * 2 ^ t < (2 ^ 54 + 1) * 2 ^ t := by
        rw [Nat.add_mul, Nat.mul_assoc]
        omega
      have hlt := Nat.lt_of_mul_lt_mul_right hmul
      omega
    rcases Nat.lt_or_eq_of_le hle with hlt | rfl
    · have hnear : Near c (1074 + t) n 1 :=
        near_of_multiple hbelow habove hodd fun hc => by rw [hc]; omega
      exact ⟨c, 1074 + t, ⟨hlt, by omega, .inl hge⟩, hnear.covers Nat.one_pos⟩
    · -- rounding has carried into the next power of two
      have htwice : 2 ^ 52 * 2 ^ (t + 1) = 2 ^ 53 * 2 ^ t := by ring
      have hdouble : 2 ^ (t + 1) = 2 * 2 ^ t := by ring
      have hnear : Near (2 ^ 52) (1074 + (t + 1)) n 1 :=
        near_of_multiple (by omega) (by omega) (fun hc => absurd hc (by decide)) fun _ => by omega
      exact ⟨2 ^ 52, 1074 + (t + 1), ⟨by decide, by omega, .inl (by decide)⟩,
        hnear.covers Nat.one_pos⟩
  · obtain ⟨m, s, h, heq⟩ := exists_canonical hsmall
    have hm : 0 < m := by
      rcases Nat.eq_zero_or_pos m with rfl | hm
      · have hzero : 0 < n * unitsPerOne := Nat.mul_pos hpos unitsPerOne_pos
        omega
      · exact hm
    exact ⟨m, s, h, covers_of_eq hm Nat.one_pos (by rw [Nat.mul_one, heq])⟩

theorem isNearest_ofInt {i : ℤ} (hi : i.natAbs.log2 < 1023) : (ofInt i).IsNearest i := by
  have hvalue : signed (decide (i < 0)) i.natAbs = i := by
    simp only [signed, decide_eq_true_eq]
    split <;> omega
  obtain ⟨m, s, h, hround, hnear⟩ : ∃ m s, ∃ h : Canonical m s,
      ofInt i = .finite (i < 0) m s h ∧ Near m s i.natAbs 1 := by
    rcases Nat.eq_zero_or_pos i.natAbs with hzero | hpos
    · obtain rfl : i = 0 := Int.natAbs_eq_zero.1 hzero
      refine ⟨0, 0, _, nearest_zero Nat.one_pos, ?_⟩
      exact ⟨by simp, by simp, fun hc => absurd hc (by decide), fun hc => absurd hc (by decide)⟩
    · obtain ⟨m, s, h, hcovers⟩ := exists_covers hpos hi
      exact ⟨m, s, h, nearest_of_covers h Nat.one_pos hcovers, hcovers.near⟩
  have hsign : decide (i < 0) = true → 0 < i.natAbs := by
    intro hneg
    have hlt := of_decide_eq_true hneg
    omega
  have hnearest := isNearest_of_near h Nat.one_pos hnear hsign
  rwa [hvalue, Nat.cast_one, div_one, ← hround] at hnearest

end Double

end TypedVars
