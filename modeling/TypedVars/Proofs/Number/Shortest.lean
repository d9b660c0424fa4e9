import TypedVars.Proofs.Number.Integer

/-!
# The shortest decimal of a double

Every grid point that the search for a shortest decimal can return lies in the interval of the
double (`shortest_covers`), so it is a decimal that rounds back to it.  For an integer up to
`2 ^ 53` the coarsest grids are enough: no other integer is in the interval but `2 ^ 53 + 1` in that
of `2 ^ 53`, so the search ends on a power of ten that divides the integer, and names it exactly
(`shortest_integer`).
-/

namespace TypedVars

namespace Double

variable {m s c fuel : Nat} {k : Int} {tie : Tie} {d : Decimal}

/-! ## Grid points -/

lemma powerOfTen_pos (k : Int) : 0 < (powerOfTen k).2 := by
  unfold powerOfTen
  split
  · exact Nat.one_pos
  · rw [Nat.pow_eq]
    exact Nat.pow_pos (by decide)

lemma contains_iff (c : Nat) (k : Int) : (reach m s).contains c k = true ↔
    (reach m s).Covers (c * (powerOfTen k).1) (powerOfTen k).2 := by
  unfold Reach.contains Reach.Covers
  have hassoc : 4 * c * (powerOfTen k).1 * unitsPerOne =
      4 * (c * (powerOfTen k).1 * unitsPerOne) := by simp only [Nat.mul_assoc]
  simp only [hassoc]
  split <;> simp

/-- What a grid has to offer is one of the two points around the double, and lies in its interval;
the upper one is taken only if the lower one is outside or not nearer. -/
lemma onGrid?_cases (h : onGrid? tie m s k = some c) :
    (reach m s).contains c k = true ∧
      (c = m * 2 ^ s * (powerOfTen k).2 / ((powerOfTen k).1 * unitsPerOne) ∨
        c = m * 2 ^ s * (powerOfTen k).2 / ((powerOfTen k).1 * unitsPerOne) + 1 ∧
        ((reach m s).contains
            (m * 2 ^ s * (powerOfTen k).2 / ((powerOfTen k).1 * unitsPerOne)) k = true →
          (powerOfTen k).1 * unitsPerOne ≤
            2 * (m * 2 ^ s * (powerOfTen k).2 % ((powerOfTen k).1 * unitsPerOne)))) := by
  simp only [onGrid?, Nat.pow_eq] at h
  generalize (powerOfTen k).1 * unitsPerOne = cell at *
  generalize m * 2 ^ s * (powerOfTen k).2 = value at *
  split at h
  · next hlow hhigh =>
    split at h
    · cases h
      exact ⟨hlow, .inl rfl⟩
    · next hnear =>
      have hfar : cell ≤ 2 * (value % cell) := Nat.le_of_not_lt hnear
      split at h
      · cases h
        exact ⟨hhigh, .inr ⟨rfl, fun _ => hfar⟩⟩
      · cases tie with
        | away =>
          cases h
          exact ⟨hhigh, .inr ⟨rfl, fun _ => hfar⟩⟩
        | even =>
          simp only [Option.some.injEq] at h
          split at h <;> subst h
          · exact ⟨hlow, .inl rfl⟩
          · exact ⟨hhigh, .inr ⟨rfl, fun _ => hfar⟩⟩
  · next hlow hhigh =>
    cases h
    exact ⟨hlow, .inl rfl⟩
  · next hlow hhigh =>
    cases h
    exact ⟨hhigh, .inr ⟨rfl, fun hlow' => by rw [hlow] at hlow'; cases hlow'⟩⟩
  · cases h

lemma exists_onGrid? (tie : Tie) (h : (reach m s).contains
    (m * 2 ^ s * (powerOfTen k).2 / ((powerOfTen k).1 * unitsPerOne)) k = true) :
    ∃ c, onGrid? tie m s k = some c := by
  simp only [onGrid?, Nat.pow_eq, h]
  split
  · split
    · exact ⟨_, rfl⟩
    · split
      · exact ⟨_, rfl⟩
      · cases tie <;> exact ⟨_, rfl⟩
  · exact ⟨_, rfl⟩
  · next hno _ => cases hno
  · next hno _ => cases hno

/-! ## The search -/

lemma onGrid?_of_firstHit? (h : firstHit? tie m s fuel k = some d) :
    onGrid? tie m s d.exponent = some d.digits := by
  induction fuel generalizing k with
  | zero => cases h
  | succ fuel ih =>
    rw [firstHit?] at h
    split at h
    · next c hc =>
      cases h
      exact hc
    · exact ih h

/-- The shortest decimal of a positive double rounds to it. -/
theorem shortest_covers (tie : Tie) (hm : 0 < m) : (reach m s).Covers
    ((shortest tie m s).digits * (powerOfTen (shortest tie m s).exponent).1)
    (powerOfTen (shortest tie m s).exponent).2 := by
  unfold shortest
  dsimp only
  generalize digitCount _ = top
  cases hhit : firstHit? tie m s (top + 1075) top with
  | some d =>
    rw [Option.getD_some, ← contains_iff]
    exact (onGrid?_cases (onGrid?_of_firstHit? hhit)).1
  | none =>
    -- the double itself, on the grid of its own last place
    have hten : powerOfTen (-1074) = (1, Nat.pow 10 1074) := rfl
    rw [Option.getD_none]
    dsimp only
    rw [hten]
    apply covers_of_eq hm (Nat.pow_pos (by decide))
    simp only [Nat.pow_eq, unitsPerOne_eq, Nat.mul_one]
    rw [Nat.mul_assoc (m * 2 ^ s), ← Nat.mul_pow, Nat.mul_assoc]

/-! ## Integers -/

section Integers

variable {n v : Nat} (h : Canonical m s) (hn : n ≤ 2 ^ 53) (heq : m * 2 ^ s = n * unitsPerOne)

include h hn heq

lemma lastPlace_le : 2 ^ s ≤ unitsPerOne ∨ n = 2 ^ 53 ∧ m = 2 ^ 52 ∧ 2 ^ s = 2 * unitsPerOne := by
  rcases Nat.lt_or_ge 1074 s with hs | hs
  · have hm : 2 ^ 52 ≤ m := by
      rcases h.normal with hnormal | hs'
      · exact hnormal
      · omega
    have hplace : 2 * unitsPerOne ≤ 2 ^ s := by
      rw [unitsPerOne_eq, ← Nat.pow_succ']
      exact Nat.pow_le_pow_right (by decide) hs
    have hupper : n * unitsPerOne ≤ 2 ^ 53 * unitsPerOne := Nat.mul_le_mul_right _ hn
    have hlower : 2 ^ 52 * 2 ^ s ≤ m * 2 ^ s := Nat.mul_le_mul_right _ hm
    have hplace' : 2 ^ s = 2 * unitsPerOne := by omega
    rw [hplace', Nat.mul_left_comm] at heq
    have hpos := unitsPerOne_pos
    have hn' : 2 * (m * unitsPerOne) = n * unitsPerOne := heq
    rw [← Nat.mul_assoc] at hn'
    have htwice := Nat.eq_of_mul_eq_mul_right hpos hn'
    exact .inr ⟨by omega, by omega, hplace'⟩
  · rw [unitsPerOne_eq]
    exact .inl (Nat.pow_le_pow_right (by decide) hs)

/-- The only integers in the interval of an integer up to `2 ^ 53` are that one itself, and one
more in the case of `2 ^ 53`, where the doubles above are two apart. -/
lemma eq_of_covers_integer (hcovers : (reach m s).Covers v 1) :
    v = n ∨ n = 2 ^ 53 ∧ v = n + 1 := by
  obtain ⟨hlow, hhigh, -, hpower⟩ := hcovers.near
  simp only [Nat.mul_one, heq] at hlow hhigh hpower
  have hpos := unitsPerOne_pos
  rcases lastPlace_le h hn heq with hplace | ⟨hn', hm, hplace⟩
  · have hge : 2 * n * unitsPerOne ≤ (2 * v + 1) * unitsPerOne := by
      rw [Nat.add_mul, Nat.mul_assoc, Nat.mul_assoc]
      omega
    have hle : 2 * v * unitsPerOne ≤ (2 * n + 1) * unitsPerOne := by
      rw [Nat.add_mul, Nat.mul_assoc, Nat.mul_assoc]
      omega
    have hge' := Nat.le_of_mul_le_mul_right hge hpos
    have hle' := Nat.le_of_mul_le_mul_right hle hpos
    exact .inl (by omega)
  · have hs : 0 < s := by
      rcases Nat.eq_zero_or_pos s with rfl | hs
      · rw [Nat.pow_zero] at hplace
        omega
      · exact hs
    have hpower' := hpower hm hs
    rw [hplace] at hpower' hhigh
    have hge : 4 * n * unitsPerOne ≤ (4 * v + 2) * unitsPerOne := by
      rw [Nat.add_mul, Nat.mul_assoc, Nat.mul_assoc]
      omega
    have hle : 2 * v * unitsPerOne ≤ (2 * n + 2) * unitsPerOne := by
      rw [Nat.add_mul, Nat.mul_assoc, Nat.mul_assoc]
      omega
    have hge' := Nat.le_of_mul_le_mul_right hge hpos
    have hle' := Nat.le_of_mul_le_mul_right hle hpos
    omega

omit h hn in
lemma gridPoint_integer (k : Nat) :
    m * 2 ^ s * (powerOfTen k).2 / ((powerOfTen k).1 * unitsPerOne) = n / 10 ^ k ∧
    m * 2 ^ s * (powerOfTen k).2 % ((powerOfTen k).1 * unitsPerOne) =
      n % 10 ^ k * unitsPerOne := by
  have hten : powerOfTen k = (10 ^ k, 1) := by simp [powerOfTen]
  simp only [hten, Nat.mul_one, heq]
  exact ⟨Nat.mul_div_mul_right _ _ unitsPerOne_pos, Nat.mul_mod_mul_right _ _ _⟩

omit h hn in
lemma contains_integer (hpos : 0 < n) : (reach m s).contains n 0 = true := by
  rw [contains_iff]
  have hten : powerOfTen 0 = (1, 1) := rfl
  have hm : 0 < m := by
    rcases Nat.eq_zero_or_pos m with rfl | hm
    · have hzero : 0 < n * unitsPerOne := Nat.mul_pos hpos unitsPerOne_pos
      omega
    · exact hm
  rw [hten]
  exact covers_of_eq hm Nat.one_pos (by simp only [Nat.mul_one, heq])

lemma onGrid?_integer (hpos : 0 < n) {k : Nat} (hc : onGrid? tie m s k = some c) :
    c * 10 ^ k = n := by
  obtain ⟨hin, hcases⟩ := onGrid?_cases hc
  obtain ⟨hdiv, hmod⟩ := gridPoint_integer heq k
  have hten : powerOfTen k = (10 ^ k, 1) := by simp [powerOfTen]
  simp only [contains_iff, hten] at hin
  have hpow : 0 < 10 ^ k := Nat.pow_pos (by decide)
  have hsplit : 10 ^ k * (n / 10 ^ k) + n % 10 ^ k = n := Nat.div_add_mod n _
  have hrest : n % 10 ^ k < 10 ^ k := Nat.mod_lt n hpow
  rw [Nat.mul_comm] at hsplit
  rw [hdiv, hmod, hten] at hcases
  rcases eq_of_covers_integer h hn heq hin with hself | ⟨hn', hnext⟩
  · exact hself
  · exfalso
    rcases hcases with rfl | ⟨rfl, htaken⟩
    · omega
    · have hk : k = 0 := by
        rcases k with _ | k
        · rfl
        · rw [Nat.pow_succ, ← Nat.mul_assoc, hn'] at hnext
          omega
      subst hk
      have hunits := unitsPerOne_pos
      have hone : 10 ^ 0 = 1 := rfl
      rw [hone, Nat.div_one, Nat.mod_one] at htaken
      have hfar := htaken (contains_integer heq hpos)
      rw [Nat.zero_mul] at hfar
      omega

lemma firstHit?_integer (tie : Tie) (hpos : 0 < n) (fuel k : Nat) (hk : k < fuel) :
    ∃ c k' : Nat, firstHit? tie m s fuel k = some ⟨c, k'⟩ ∧ c * 10 ^ k' = n := by
  induction fuel generalizing k with
  | zero => omega
  | succ fuel ih =>
    rw [firstHit?]
    cases hc : onGrid? tie m s k with
    | some c => exact ⟨c, k, rfl, onGrid?_integer h hn heq hpos hc⟩
    | none =>
      rcases k with _ | k
      · -- the grid of ones cannot be passed by
        have hdiv := (gridPoint_integer heq 0).1
        rw [Nat.pow_zero, Nat.div_one] at hdiv
        obtain ⟨c, hc'⟩ := exists_onGrid? tie (m := m) (s := s) (k := (0 : Nat))
          (by rw [hdiv]; exact contains_integer heq hpos)
        rw [hc] at hc'
        cases hc'
      · have hnext : ((k + 1 : Nat) : Int) - 1 = (k : Nat) := by omega
        rw [hnext]
        exact ih k (by omega)

/-- The shortest decimal of a positive integer up to `2 ^ 53` is that integer. -/
theorem shortest_integer (tie : Tie) (hpos : 0 < n) :
    ∃ c k : Nat, shortest tie m s = ⟨c, k⟩ ∧ c * 10 ^ k = n := by
  unfold shortest
  dsimp only
  generalize digitCount _ = top
  obtain ⟨c, k, hhit, hc⟩ :=
    firstHit?_integer h hn heq tie hpos (top + 1075) top (by omega)
  exact ⟨c, k, by rw [hhit, Option.getD_some], hc⟩

end Integers

end Double

end TypedVars
