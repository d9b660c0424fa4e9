import TypedVars.Proofs.Amount

/-!
# The order of doubles

Rounding keeps the order of numbers (`IsNearest.value_le`), and it leaves the integers alone that
have few enough digits in binary (`value_ofInt_mul`).  So the double of an integer lies between the
doubles of its neighbours among these, at most half their distance away: at most `512` for an
integer of 64 bits (`abs_value_ofInt_sub_le`).

The double of an integer of 64 bits is an integer again, though `2 ^ 63` is not one of 64 bits.
Read back, with `2 ^ 63` taken for the greatest one, it is rounded to the same double
(`toInt64?_ofInt`).
-/

namespace TypedVars

namespace Double

variable {x y : Double} {q q' : ℚ} {i j k : ℤ} {t : ℕ}

/-! ## Rounding and order -/

/-- A number that is no nearer to the lesser of two doubles lies above their middle. -/
lemma add_value_le (hgt : y.value < x.value) (hle : |x.value - q| ≤ |y.value - q|) :
    x.value + y.value ≤ 2 * q := by
  rcases abs_cases (x.value - q) with hx | hx <;> rcases abs_cases (y.value - q) with hy | hy <;>
    linarith [hx.1, hx.2, hy.1, hy.2]

lemma le_add_value (hgt : y.value < x.value) (hle : |y.value - q| ≤ |x.value - q|) :
    2 * q ≤ x.value + y.value := by
  rcases abs_cases (x.value - q) with hx | hx <;> rcases abs_cases (y.value - q) with hy | hy <;>
    linarith [hx.1, hx.2, hy.1, hy.2]

/-- Of two numbers the greater one is not rounded to a lesser double. -/
lemma IsNearest.value_le (hx : x.IsNearest q) (hy : y.IsNearest q') (hlt : q < q') :
    x.value ≤ y.value := by
  by_contra hnot
  have hgt : y.value < x.value := lt_of_not_ge hnot
  have habove := add_value_le hgt (hx.le y hy.finite)
  have hbelow := le_add_value hgt (hy.le x hx.finite)
  linarith

lemma isNearest_ofInt_of_le (hi : i.natAbs ≤ 2 ^ 64) : (ofInt i).IsNearest i := by
  apply isNearest_ofInt
  rcases Nat.eq_zero_or_pos i.natAbs with hzero | hpos
  · rw [hzero]
    decide
  · have hlog : i.natAbs.log2 < 65 := (Nat.log2_lt (by omega)).2 (by omega)
    omega

lemma value_ofInt_le (hij : i ≤ j) (hi : i.natAbs ≤ 2 ^ 64) (hj : j.natAbs ≤ 2 ^ 64) :
    (ofInt i).value ≤ (ofInt j).value := by
  rcases hij.eq_or_lt with rfl | hlt
  · exact le_rfl
  · exact (isNearest_ofInt_of_le hi).value_le (isNearest_ofInt_of_le hj) (Int.cast_lt.2 hlt)

/-! ## Integers that are doubles -/

lemma exists_canonical_mul {n : ℕ} (hn : n ≤ 2 ^ 53) (ht : t ≤ 900) :
    ∃ m s, Canonical m s ∧ m * 2 ^ s = n * 2 ^ t * unitsPerOne := by
  obtain ⟨m, s, h, heq⟩ := exists_canonical hn
  rcases Nat.eq_zero_or_pos n with rfl | hpos
  · exact ⟨0, 0, ⟨by decide, by decide, .inr rfl⟩, by simp⟩
  have hnormal : 2 ^ 52 ≤ m := by
    rcases h.normal with hnormal | rfl
    · exact hnormal
    · have hone : 1 * unitsPerOne ≤ n * unitsPerOne := Nat.mul_le_mul_right _ hpos
      have hlt : m < 2 ^ 53 := h.lt
      have hunits : 2 ^ 53 ≤ unitsPerOne := by
        rw [unitsPerOne_eq]
        exact Nat.pow_le_pow_right (by decide) (by decide)
      rw [Nat.pow_zero, Nat.mul_one] at heq
      omega
  have hs : s ≤ 1075 := by
    have hplace : 2 ^ s ≤ 2 ^ 1075 := by
      rw [Nat.pow_succ, ← unitsPerOne_eq]
      rcases lastPlace_le h hn heq with hle | ⟨-, -, hplace⟩ <;> omega
    exact (Nat.pow_le_pow_iff_right (by decide)).1 hplace
  refine ⟨m, s + t, ⟨h.lt, by omega, .inl hnormal⟩, ?_⟩
  rw [Nat.pow_add, ← Nat.mul_assoc, heq, Nat.mul_right_comm]

lemma value_eq_of_units {m s : ℕ} {h : Canonical m s}
    (heq : m * 2 ^ s = i.natAbs * unitsPerOne) : (finite (i < 0) m s h).value = i := by
  have hunit : (unitsPerOne : ℚ) ≠ 0 := Nat.cast_ne_zero.2 (ne_of_gt unitsPerOne_pos)
  have hsigned : (finite (i < 0) m s h).signedUnits = i * unitsPerOne := by
    rw [signedUnits, isNegative, units, Nat.pow_eq, heq, ← signed_mul]
    congr 1
    simp only [signed, decide_eq_true_eq]
    split <;> omega
  rw [value, hsigned, Int.cast_mul, Int.cast_natCast, mul_div_cancel_right₀ _ hunit]

/-- An integer with at most 53 binary digits before its zeros is a double. -/
lemma value_ofInt_mul (hk : k.natAbs ≤ 2 ^ 53) (ht : t ≤ 900) :
    (ofInt (k * 2 ^ t)).value = k * 2 ^ t := by
  obtain ⟨m, s, h, heq⟩ := exists_canonical_mul hk ht
  have habs : (k * 2 ^ t).natAbs = k.natAbs * 2 ^ t := by
    rw [Int.natAbs_mul, Int.natAbs_pow]
    rfl
  rw [← habs] at heq
  rw [ofInt_of_canonical h heq, value_eq_of_units heq]
  push_cast
  rfl

lemma value_ofInt (hi : i.natAbs ≤ 2 ^ 53) : (ofInt i).value = i := by
  simpa using value_ofInt_mul (t := 0) hi (by decide)

/-- The double of an integer of 64 bits is at most `512` away from it. -/
lemma abs_value_ofInt_sub_le (hi : i.natAbs ≤ 2 ^ 63) : |(ofInt i).value - i| ≤ 512 := by
  obtain ⟨k, hk, hnear⟩ : ∃ k : ℤ, k.natAbs ≤ 2 ^ 53 ∧ |k * 2 ^ 10 - i| ≤ 512 :=
    ⟨(i + 512) / 2 ^ 10, by omega, by rw [abs_le]; omega⟩
  have hexact := value_ofInt_mul (t := 10) hk (by decide)
  have hfinite : (ofInt (k * 2 ^ 10)).isFinite = true :=
    (isNearest_ofInt_of_le (by omega)).finite
  calc |(ofInt i).value - i|
      ≤ |(ofInt (k * 2 ^ 10)).value - i| := (isNearest_ofInt_of_le (by omega)).le _ hfinite
    _ = ((|k * 2 ^ 10 - i| : ℤ) : ℚ) := by
        rw [hexact]
        push_cast
        rfl
    _ ≤ 512 := by exact_mod_cast hnear

/-! ## Back to integers -/

lemma natAbs_signed (negative : Bool) (n : ℕ) : (signed negative n).natAbs = n := by
  cases negative <;> simp [signed]

lemma abs_value {m s : ℕ} (negative : Bool) (h : Canonical m s) :
    |(finite negative m s h).value| = ((m * 2 ^ s : ℕ) : ℚ) / unitsPerOne := by
  have hunit : (0 : ℚ) < unitsPerOne := Nat.cast_pos.2 unitsPerOne_pos
  rw [value, abs_div, abs_of_pos hunit, ← Int.cast_abs, Int.abs_eq_natAbs, signedUnits,
    natAbs_signed, units, Nat.pow_eq, Int.cast_natCast]

lemma ofInt_of_value (hfinite : x.isFinite = true) (hvalue : x.value = i)
    (hsign : x.isNegative = true ↔ i < 0) : ofInt i = x := by
  cases x with
  | nan | infinite negative => cases hfinite
  | finite negative m s h =>
    have hunit : (unitsPerOne : ℚ) ≠ 0 := Nat.cast_ne_zero.2 (ne_of_gt unitsPerOne_pos)
    rw [value, div_eq_iff hunit] at hvalue
    have hunits : signed negative (m * 2 ^ s) = i * unitsPerOne := by
      have hcast : (((finite negative m s h).signedUnits : ℤ) : ℚ) = ((i * unitsPerOne : ℤ) : ℚ) := by
        rw [hvalue, Int.cast_mul, Int.cast_natCast]
      exact Int.cast_inj.1 hcast
    have hmagnitude : m * 2 ^ s = i.natAbs * unitsPerOne := by
      have habs := congrArg Int.natAbs hunits
      rw [Int.natAbs_mul, Int.natAbs_natCast] at habs
      rw [← habs, natAbs_signed]
    have hnegative : negative = decide (i < 0) := by
      rw [Bool.eq_iff_iff, decide_eq_true_iff]
      exact hsign
    rw [ofInt_of_canonical h hmagnitude]
    simp only [hnegative]

lemma exists_value_eq_of_large (hfinite : x.isFinite = true) (hlarge : 2 ^ 53 ≤ |x.value|) :
    ∃ n : ℤ, x.value = n := by
  cases x with
  | nan | infinite negative => cases hfinite
  | finite negative m s h =>
    have hunit : (0 : ℚ) < unitsPerOne := Nat.cast_pos.2 unitsPerOne_pos
    have hlt : m < 2 ^ 53 := h.lt
    have hmagnitude : 2 ^ 53 * unitsPerOne ≤ m * 2 ^ s := by
      rw [abs_value, le_div_iff₀ hunit] at hlarge
      exact_mod_cast hlarge
    -- the last place is one or more
    have hs : 1074 ≤ s := by
      by_contra hfew
      have hpow : 2 ^ s ≤ unitsPerOne := by
        rw [unitsPerOne_eq]
        exact Nat.pow_le_pow_right (by decide) (by omega)
      have hless : m * 2 ^ s < 2 ^ 53 * 2 ^ s := Nat.mul_lt_mul_of_pos_right hlt (Nat.two_pow_pos s)
      have hle : 2 ^ 53 * 2 ^ s ≤ 2 ^ 53 * unitsPerOne := Nat.mul_le_mul_left _ hpow
      omega
    obtain ⟨k, rfl⟩ := Nat.exists_eq_add_of_le hs
    have hsplit : m * 2 ^ (1074 + k) = m * 2 ^ k * unitsPerOne := by
      rw [unitsPerOne_eq, Nat.pow_add, Nat.mul_comm (2 ^ 1074), Nat.mul_assoc]
    refine ⟨signed negative (m * 2 ^ k), ?_⟩
    rw [value, div_eq_iff (ne_of_gt hunit), signedUnits, isNegative, units, Nat.pow_eq, hsplit,
      ← signed_mul, Int.cast_mul, Int.cast_natCast]

/-- The double of an integer lies on the same side of an integer that is a double. -/
lemma value_ofInt_bounds (hk : k.natAbs ≤ 2 ^ 53) (ht : t ≤ 11) (hi : i.natAbs ≤ 2 ^ 64) :
    (k * 2 ^ t ≤ i → (k * 2 ^ t : ℚ) ≤ (ofInt i).value) ∧
      (i ≤ k * 2 ^ t → (ofInt i).value ≤ (k * 2 ^ t : ℚ)) := by
  have hexact := value_ofInt_mul (t := t) hk (by omega)
  have habs : (k * 2 ^ t).natAbs ≤ 2 ^ 64 := by
    have hmul : k.natAbs * 2 ^ t ≤ 2 ^ 53 * 2 ^ 11 :=
      Nat.mul_le_mul hk (Nat.pow_le_pow_right (by decide) ht)
    rw [Int.natAbs_mul, Int.natAbs_pow]
    exact hmul
  rw [← hexact]
  exact ⟨fun hle => value_ofInt_le hle habs hi, fun hle => value_ofInt_le hle hi habs⟩

lemma exists_value_ofInt (hi : i.natAbs ≤ 2 ^ 64) : ∃ n : ℤ, (ofInt i).value = n := by
  rcases Nat.lt_or_ge (2 ^ 53) i.natAbs with hmany | hfew
  · apply exists_value_eq_of_large (isNearest_ofInt_of_le hi).finite
    rcases (by omega : 2 ^ 53 * 2 ^ 0 ≤ i ∨ i ≤ -2 ^ 53 * 2 ^ 0) with habove | hbelow
    · have hle := (value_ofInt_bounds (k := 2 ^ 53) (by decide) (by decide) hi).1 habove
      refine le_trans ?_ (le_abs_self _)
      norm_num at hle ⊢
      exact hle
    · have hle := (value_ofInt_bounds (k := -2 ^ 53) (by decide) (by decide) hi).2 hbelow
      refine le_trans ?_ (neg_le_abs _)
      norm_num at hle ⊢
      linarith
  · exact ⟨i, value_ofInt hfew⟩

lemma toInt64?_of_value (hfinite : x.isFinite = true) (hvalue : x.value = i) :
    x.toInt64? = some (clamp i) := by
  have hwhole : towardZero (i : ℚ) = i := by
    unfold towardZero
    split
    · exact Int.ceil_intCast i
    · exact Int.floor_intCast i
  rw [toInt64?, truncate?_eq_towardZero hfinite, hvalue, hwhole, Option.map_some]

lemma bounds_of_value_ofInt {n : ℤ} (hn : (ofInt i).value = n) (hk : k.natAbs ≤ 2 ^ 53)
    (ht : t ≤ 11) (hi : i.natAbs ≤ 2 ^ 64) :
    (k * 2 ^ t ≤ i → k * 2 ^ t ≤ n) ∧ (i ≤ k * 2 ^ t → n ≤ k * 2 ^ t) := by
  obtain ⟨habove, hbelow⟩ := value_ofInt_bounds hk ht hi
  rw [hn] at habove hbelow
  exact ⟨fun hle => by exact_mod_cast habove hle, fun hle => by exact_mod_cast hbelow hle⟩

/-- The double of an integer of 64 bits, read back as an integer, has the same double again. -/
theorem toInt64?_ofInt (hlow : minInt64 ≤ i) (hhigh : i ≤ maxInt64) :
    ∃ n, (ofInt i).toInt64? = some n ∧ ofInt n = ofInt i := by
  unfold minInt64 maxInt64 at *
  have hi : i.natAbs ≤ 2 ^ 64 := by omega
  have hnearest := isNearest_ofInt_of_le hi
  obtain ⟨n, hn⟩ := exists_value_ofInt hi
  have hbounds := fun k t => bounds_of_value_ofInt (k := k) (t := t) hn
  -- the integer lies between `-2 ^ 63` and `2 ^ 63`, and on the same side of zero
  have habove := (hbounds (-2 ^ 52) 11 (by decide) (by decide) hi).1 (by omega)
  have hbelow := (hbounds (2 ^ 52) 11 (by decide) (by decide) hi).2 (by omega)
  have hsign : n < 0 ↔ i < 0 := by
    have hzero := (hbounds 0 0 (by decide) (by decide) hi).1
    have hone := (hbounds (-1) 0 (by decide) (by decide) hi).2
    omega
  have hsame : ofInt n = ofInt i := ofInt_of_value hnearest.finite hn <| by
    rw [hsign, hnearest.sign]
    exact Int.cast_lt_zero
  refine ⟨clamp n, toInt64?_of_value hnearest.finite hn, ?_⟩
  rcases Int.lt_or_eq_of_le hbelow with hlt | rfl
  · rw [clamp_eq_self (by unfold minInt64; omega) (by unfold maxInt64; omega)]
    exact hsame
  · have hgreatest : ofInt (clamp (2 ^ 52 * 2 ^ 11)) = ofInt (2 ^ 52 * 2 ^ 11) := by
      decide +kernel
    rw [hgreatest]
    exact hsame

end Double

end TypedVars
