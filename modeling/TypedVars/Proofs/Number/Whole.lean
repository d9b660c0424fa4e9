import TypedVars.Proofs.Leading
import TypedVars.Proofs.Number.Order

/-!
# Integer parts and written numbers

A number counts as its integer part, and a text as the integer that it begins with.  Up to `2 ^ 53`
the text of a number begins with the integer part of the number (`leadingInt?_text`), though the
text is only one of the decimals that round to the number, and need not be equal to it.

The decimals that round to a double fill an interval (`Reach.Covers.between`).  The integers up to
`2 ^ 53` are doubles, each with an interval of its own, so none of them lies between the double and
its decimal: the two have one integer part (`floor_eq_of_covers`).  Where the double is an integer
itself, the decimal could still lie below it; but then it is that integer (`shortest_integer`).
-/

namespace TypedVars

/-! ## The digits before the point -/

lemma decimalValue_append (cs ds : List Char) :
    decimalValue (cs ++ ds) = 10 ^ ds.length * decimalValue cs + decimalValue ds := by
  simp only [decimalValue_eq]
  rw [Nat.ofDigitChars_append, Nat.ofDigitChars_eq_ofDigitChars_zero]

lemma decimalValue_lt {ds : List Char} (hds : ∀ c ∈ ds, c.isDigit = true) :
    decimalValue ds < 10 ^ ds.length := by
  induction ds using List.reverseRecOn with
  | nil => decide
  | append_singleton ds c ih =>
    have hbounds := toNat_of_isDigit (hds c (by simp))
    have hrest := ih fun d hd => hds d (List.mem_append_left [c] hd)
    have hlast : decimalValue [c] = c.toNat - 48 := by simp [decimalValue, digitValue]
    rw [decimalValue_append, hlast, List.length_append, List.length_singleton, Nat.pow_one,
      Nat.pow_succ]
    omega

lemma decimalValue_take {ds : List Char} (hds : ∀ c ∈ ds, c.isDigit = true) {k : ℕ}
    (hk : k ≤ ds.length) :
    decimalValue (ds.take (ds.length - k)) = decimalValue ds / 10 ^ k := by
  have hlength : (ds.drop (ds.length - k)).length = k := by
    rw [List.length_drop]
    omega
  have hvalue := decimalValue_append (ds.take (ds.length - k)) (ds.drop (ds.length - k))
  have hlt := decimalValue_lt fun c hc => hds c (List.mem_of_mem_drop (i := ds.length - k) hc)
  rw [List.take_append_drop, hlength] at hvalue
  rw [hlength] at hlt
  rw [hvalue, Nat.mul_add_div (Nat.pow_pos (by decide)), Nat.div_eq_of_lt hlt, Nat.add_zero]

lemma Decimal.exists_positional (d : Decimal) : ∃ digits rest,
    d.positional [] = digits ++ rest ∧ digits ≠ [] ∧ (∀ c ∈ digits, c.isDigit = true) ∧
      (∀ c ∈ rest.head?, c.isDigit = false) ∧
      decimalValue digits =
        d.digits * (Double.powerOfTen d.exponent).1 / (Double.powerOfTen d.exponent).2 := by
  have hdigit : ∀ c ∈ d.chars, c.isDigit = true := fun c => isDigit_of_mem_chars
  have hvalue : decimalValue d.chars = d.digits := decimalValue_toDigits d.digits
  have hpos : 0 < d.chars.length := Nat.length_toDigits_pos
  have hpoint : ∀ cs : List Char, ∀ c ∈ ('.' :: cs).head?, c.isDigit = false := by
    rintro cs c ⟨⟩
    rfl
  rw [Double.powerOfTen_eq]
  unfold positional
  dsimp only
  split
  · next hexponent =>
    -- zeros in the place of a point
    have hone : (-d.exponent).toNat = 0 := by omega
    refine ⟨d.chars ++ List.replicate d.exponent.toNat '0', [], rfl, ?_, fun c hc => ?_, by simp, ?_⟩
    · exact List.append_ne_nil_of_left_ne_nil (List.ne_nil_of_length_pos hpos) _
    · rcases List.mem_append.1 hc with hc | hc
      · exact hdigit c hc
      · exact isDigit_of_mem_zeros hc
    · rw [decimalValue_append_zeros, hvalue, hone, Nat.pow_zero, Nat.div_one]
  · next hexponent =>
    have hone : d.exponent.toNat = 0 := by omega
    rw [hone, Nat.pow_zero, Nat.mul_one]
    generalize (-d.exponent).toNat = places
    split
    · next hplaces =>
      refine ⟨_, _, rfl, ?_, fun c hc => hdigit c (List.mem_of_mem_take hc), hpoint _, ?_⟩
      · apply List.ne_nil_of_length_pos
        rw [List.length_take]
        omega
      · rw [decimalValue_take hdigit (Nat.le_of_lt hplaces), hvalue]
    · next hplaces =>
      have hlt : d.digits < 10 ^ places :=
        (Nat.length_toDigits_le_iff (by decide) (by omega)).1 (Nat.le_of_not_lt hplaces)
      refine ⟨['0'], _, rfl, by simp, by simp, hpoint _, ?_⟩
      rw [Nat.div_eq_of_lt hlt]
      rfl

namespace Double

variable {x : Double} {m s n num den num' den' : ℕ}

/-! ## Integers between a double and its decimals -/

lemma Reach.Covers.between {r : Reach} (h : r.Covers num den) (h' : r.Covers num' den')
    (hden : 0 < den) (hden' : 0 < den') (hlow : num ≤ n * den) (hhigh : n * den' ≤ num') :
    r.Covers n 1 := by
  have hbelow : 4 * (num * unitsPerOne) ≤ 4 * (n * unitsPerOne) * den := by
    calc 4 * (num * unitsPerOne) ≤ 4 * (n * den * unitsPerOne) :=
          Nat.mul_le_mul_left _ (Nat.mul_le_mul_right _ hlow)
      _ = 4 * (n * unitsPerOne) * den := by ring
  have habove : 4 * (n * unitsPerOne) * den' ≤ 4 * (num' * unitsPerOne) := by
    calc 4 * (n * unitsPerOne) * den' = 4 * (n * den' * unitsPerOne) := by ring
      _ ≤ 4 * (num' * unitsPerOne) := Nat.mul_le_mul_left _ (Nat.mul_le_mul_right _ hhigh)
  unfold Covers at *
  rw [Nat.mul_one, Nat.mul_one]
  split
  · next hclosed =>
    rw [if_pos hclosed] at h h'
    exact ⟨Nat.le_of_mul_le_mul_right (h.1.trans hbelow) hden,
      Nat.le_of_mul_le_mul_right (habove.trans h'.2) hden'⟩
  · next hclosed =>
    rw [if_neg hclosed] at h h'
    exact ⟨Nat.lt_of_mul_lt_mul_right (h.1.trans_le hbelow),
      Nat.lt_of_mul_lt_mul_right (habove.trans_lt h'.2)⟩

/-- An integer up to `2 ^ 53` that rounds to a double is that double. -/
lemma units_eq_of_covers (h : Canonical m s) (hn : n ≤ 2 ^ 53) (hcovers : (reach m s).Covers n 1) :
    m * 2 ^ s = n * unitsPerOne := by
  obtain ⟨m', s', h', heq⟩ := exists_canonical hn
  have hround : ofInt n = .finite false m s h := nearest_of_covers h Nat.one_pos hcovers
  have hexact := ofInt_of_canonical (i := n) h' heq
  rw [hround] at hexact
  injection hexact with _ hm hs
  rw [hm, hs, heq]

/-- A double below `2 ^ 53` that is no integer has the integer part of all that rounds to it. -/
lemma floor_eq_of_covers (h : Canonical m s) (hm : 0 < m) (hden : 0 < den)
    (hle : m * 2 ^ s ≤ 2 ^ 53 * unitsPerOne) (hcovers : (reach m s).Covers num den)
    (hfraction : m * 2 ^ s ≠ m * 2 ^ s / unitsPerOne * unitsPerOne) :
    num / den = m * 2 ^ s / unitsPerOne := by
  have hunit := unitsPerOne_pos
  have hself : (reach m s).Covers (m * 2 ^ s) unitsPerOne :=
    covers_of_eq hm hunit (Nat.mul_assoc _ _ _)
  have hfloor := Nat.div_mul_le_self (m * 2 ^ s) unitsPerOne
  have hceil : m * 2 ^ s < (m * 2 ^ s / unitsPerOne + 1) * unitsPerOne :=
    Nat.lt_mul_of_div_lt (Nat.lt_succ_self _) hunit
  generalize m * 2 ^ s / unitsPerOne = n at *
  have hn : n < 2 ^ 53 := by
    by_contra hlarge
    have hmul := Nat.mul_le_mul_right unitsPerOne (Nat.le_of_not_lt hlarge)
    omega
  apply Nat.div_eq_of_lt_le
  · by_contra hbelow
    have heq := units_eq_of_covers h hn.le
      (hcovers.between hself hden hunit (Nat.le_of_not_le hbelow) hfloor)
    exact hfraction heq
  · by_contra habove
    have heq := units_eq_of_covers h hn
      (hself.between hcovers hunit hden hceil.le (Nat.le_of_not_lt habove))
    exact hceil.ne heq

/-! ## The text of a number -/

lemma floor_shortest (tie : Tie) (h : Canonical m s) (hm : 0 < m)
    (hle : m * 2 ^ s ≤ 2 ^ 53 * unitsPerOne) :
    (shortest tie m s).digits * (powerOfTen (shortest tie m s).exponent).1 /
      (powerOfTen (shortest tie m s).exponent).2 = m * 2 ^ s / unitsPerOne := by
  by_cases hinteger : m * 2 ^ s = m * 2 ^ s / unitsPerOne * unitsPerOne
  · have hn : m * 2 ^ s / unitsPerOne ≤ 2 ^ 53 :=
      (Nat.div_le_div_right hle).trans_eq (Nat.mul_div_cancel _ unitsPerOne_pos)
    have hpos : 0 < m * 2 ^ s / unitsPerOne := by
      rcases Nat.eq_zero_or_pos (m * 2 ^ s / unitsPerOne) with hzero | hpos
      · rw [hzero, Nat.zero_mul] at hinteger
        exact absurd hinteger (Nat.mul_pos hm (Nat.two_pow_pos s)).ne'
      · exact hpos
    obtain ⟨c, k, hshort, hc⟩ := shortest_integer h hn hinteger tie hpos
    rw [hshort, powerOfTen_eq]
    simp only [Int.toNat_natCast, Int.toNat_neg_natCast, Nat.pow_zero, Nat.div_one]
    exact hc
  · exact floor_eq_of_covers h hm (powerOfTen_pos _) hle (shortest_covers tie hm) hinteger

lemma headed_text (negative : Bool) (h : Canonical m s)
    (hle : m * 2 ^ s ≤ 2 ^ 53 * unitsPerOne) : ∃ digits rest,
    Headed (finite negative m s h).text [] (signChars negative) digits rest ∧ digits ≠ [] ∧
      decimalValue digits = m * 2 ^ s / unitsPerOne := by
  obtain ⟨digits, rest, hbody, hne, hdigits, hrest, hvalue⟩ : ∃ digits rest,
      (if m = 0 then ['0'] else (shortest .away m s).positional []) = digits ++ rest ∧
        digits ≠ [] ∧ (∀ c ∈ digits, c.isDigit = true) ∧ (∀ c ∈ rest.head?, c.isDigit = false) ∧
        decimalValue digits = m * 2 ^ s / unitsPerOne := by
    rcases Nat.eq_zero_or_pos m with rfl | hm
    · refine ⟨['0'], [], rfl, by simp, by simp, by simp, ?_⟩
      rw [Nat.zero_mul, Nat.zero_div]
      rfl
    · rw [if_neg hm.ne', ← floor_shortest .away h hm hle]
      exact (shortest .away m s).exists_positional
  refine ⟨digits, rest, ?_, hne, hvalue⟩
  apply headed_of_digits _ (by simp) (signChars_mem negative) hne hdigits hrest
  rw [text, String.toList_ofList, chars, hbody, List.nil_append]

/-- Up to `2 ^ 53` the text of a number begins with the integer part of the number, and the texts of
the numbers that have none begin with no integer. -/
theorem leadingInt?_text (hle : x.isFinite = true → |x.value| ≤ 2 ^ 53) :
    leadingInt? x.text = x.toInt64? := by
  cases x with
  | nan => decide +kernel
  | infinite negative => cases negative <;> decide +kernel
  | finite negative m s h =>
    have hunit : (0 : ℚ) < unitsPerOne := Nat.cast_pos.2 unitsPerOne_pos
    have hunits : m * 2 ^ s ≤ 2 ^ 53 * unitsPerOne := by
      have hle := hle rfl
      rw [abs_value, div_le_iff₀ hunit] at hle
      exact_mod_cast hle
    obtain ⟨digits, rest, hhead, hne, hvalue⟩ := headed_text negative h hunits
    have hsign : decide (signChars negative = ['-']) = negative := by cases negative <;> rfl
    rw [hhead.leadingInt?_eq, if_neg hne, hvalue, hsign]
    rfl

/-- Above `2 ^ 53` the shortest decimal of an integer need not be that integer. -/
example : leadingInt? (ofInt (2 ^ 60)).text = some 1152921504606847000 ∧
    (ofInt (2 ^ 60)).toInt64? = some 1152921504606846976 := by
  decide +kernel

end Double

end TypedVars
