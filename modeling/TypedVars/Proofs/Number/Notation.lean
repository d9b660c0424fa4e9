import TypedVars.Number.Literal
import TypedVars.Number.Notation
import TypedVars.Proofs.Number.Shortest

/-!
# Written numbers are read back

The round trip of a double through its text has three parts.  The positional form of a decimal is
read as that decimal (`ofNumeral?_positional`); a decimal in the interval of a double is not cut off
as too large or too small, and rounds to the double (`ofDecimal_of_covers`); and the digits that are
written lie in that interval (`shortest_covers`).  Together every double, `NaN` and the infinities
included, is what its text is read as (`ofChars?_chars`).

The text of an integer up to `2 ^ 53` consists of its decimal digits (`text_ofInt`).
-/

namespace TypedVars

/-! ## Runs -/

lemma takeWhile_append_of_head {α : Type} {p : α → Bool} {l rest : List α}
    (h : ∀ a ∈ l, p a = true) (hrest : ∀ a ∈ rest.head?, p a = false) :
    (l ++ rest).takeWhile p = l := by
  rw [List.takeWhile_append_of_pos h]
  cases rest with
  | nil => simp
  | cons a rest => simp [hrest a rfl]

lemma dropWhile_append_of_head {α : Type} {p : α → Bool} {l rest : List α}
    (h : ∀ a ∈ l, p a = true) (hrest : ∀ a ∈ rest.head?, p a = false) :
    (l ++ rest).dropWhile p = rest := by
  rw [List.dropWhile_append_of_pos h]
  cases rest with
  | nil => simp
  | cons a rest => simp [hrest a rfl]

/-! ## Digits -/

lemma decimalValue_eq (cs : List Char) : decimalValue cs = Nat.ofDigitChars 10 cs 0 := by
  rw [Nat.ofDigitChars_eq_foldl]
  rfl

lemma decimalValue_toDigits (n : Nat) : decimalValue (Nat.toDigits 10 n) = n := by
  rw [decimalValue_eq, Nat.ofDigitChars_ten_toDigits]

lemma decimalValue_zeros_append (k : Nat) (cs : List Char) :
    decimalValue (List.replicate k '0' ++ cs) = decimalValue cs := by
  rw [decimalValue_eq, decimalValue_eq, Nat.ofDigitChars_append, Nat.ofDigitChars_replicate_zero,
    Nat.mul_zero]

lemma decimalValue_append_zeros (k : Nat) (cs : List Char) :
    decimalValue (cs ++ List.replicate k '0') = decimalValue cs * 10 ^ k := by
  rw [decimalValue_eq, decimalValue_eq, Nat.ofDigitChars_append, Nat.ofDigitChars_replicate_zero,
    Nat.mul_comm]

/-- Zeros at the end multiply by powers of ten. -/
lemma toDigits_mul_pow {n : Nat} (hn : 0 < n) (k : Nat) :
    Nat.toDigits 10 (n * 10 ^ k) = Nat.toDigits 10 n ++ List.replicate k '0' := by
  induction k with
  | zero => simp
  | succ k ih =>
    have hpos : 0 < n * 10 ^ k := Nat.mul_pos hn (Nat.pow_pos (by decide))
    have hstep := Nat.toDigits_append_toDigits (b := 10) (d := 0) (by decide) hpos (by decide)
    rw [Nat.add_zero, Nat.toDigits_zero, ih, List.append_assoc] at hstep
    rw [Nat.pow_succ, Nat.mul_comm (10 ^ k), Nat.mul_left_comm, ← hstep, List.replicate_succ']

lemma isDigit_of_mem_zeros {k : Nat} {c : Char} (h : c ∈ List.replicate k '0') :
    c.isDigit = true := by
  rw [List.eq_of_mem_replicate h]
  rfl

lemma Decimal.isDigit_of_mem_chars {d : Decimal} {c : Char} (h : c ∈ d.chars) :
    c.isDigit = true :=
  Nat.isDigit_of_mem_toDigits (by decide) (by decide) h

lemma toNat_of_isDigit {c : Char} (h : c.isDigit = true) : 48 ≤ c.toNat ∧ c.toNat ≤ 57 :=
  Char.isDigit_iff_toNat.1 h

/-! ## Numerals -/

namespace Double

variable {m s : Nat} {negative : Bool}

/-- A run of digits is read as the integer that it writes. -/
lemma ofNumeral?_digits {ds : List Char} (hne : ds ≠ []) (hds : ∀ c ∈ ds, c.isDigit = true) :
    ofNumeral? negative ds = some (ofDecimal negative (decimalValue ds) 0) := by
  have htake : ds.takeWhile Char.isDigit = ds := List.takeWhile_eq_self_iff.2 hds
  have hdrop : ds.dropWhile Char.isDigit = [] := List.dropWhile_eq_nil_iff.2 hds
  simp [ofNumeral?, htake, hdrop, hne, readExponent?]

/-- Two runs of digits around a point are read as their digits, scaled down by the second run. -/
lemma ofNumeral?_point {ws fs : List Char} (hne : ws ≠ []) (hws : ∀ c ∈ ws, c.isDigit = true)
    (hfs : ∀ c ∈ fs, c.isDigit = true) :
    ofNumeral? negative (ws ++ '.' :: fs) =
      some (ofDecimal negative (decimalValue (ws ++ fs)) (-fs.length)) := by
  have hpoint : ¬ ('.').isDigit = true := by decide
  have htake : (ws ++ '.' :: fs).takeWhile Char.isDigit = ws := by
    rw [List.takeWhile_append_of_pos hws, List.takeWhile_cons_of_neg hpoint, List.append_nil]
  have hdrop : (ws ++ '.' :: fs).dropWhile Char.isDigit = '.' :: fs := by
    rw [List.dropWhile_append_of_pos hws, List.dropWhile_cons_of_neg hpoint]
  have htake' : fs.takeWhile Char.isDigit = fs := List.takeWhile_eq_self_iff.2 hfs
  have hdrop' : fs.dropWhile Char.isDigit = [] := List.dropWhile_eq_nil_iff.2 hfs
  simp [ofNumeral?, htake, hdrop, htake', hdrop', hne, readExponent?]

/-- The positional form of a decimal is read as that decimal, an integral one as its integer. -/
lemma ofNumeral?_positional (d : Decimal) : ofNumeral? negative (d.positional []) =
    some (if 0 ≤ d.exponent then ofDecimal negative (d.digits * 10 ^ d.exponent.toNat) 0
      else ofDecimal negative d.digits d.exponent) := by
  have hne : d.chars ≠ [] := Nat.toDigits_ne_nil
  have hvalue : decimalValue d.chars = d.digits := decimalValue_toDigits d.digits
  have hdigit : ∀ c ∈ d.chars, c.isDigit = true := fun c => Decimal.isDigit_of_mem_chars
  unfold Decimal.positional
  dsimp only
  split
  · rw [List.append_nil, ofNumeral?_digits (by simp [hne]), decimalValue_append_zeros, hvalue]
    intro c hc
    rcases List.mem_append.1 hc with hc | hc
    · exact hdigit c hc
    · exact isDigit_of_mem_zeros hc
  · next hexp =>
    have hplaces : (d.exponent : Int) = -((-d.exponent).toNat : Int) := by omega
    generalize (-d.exponent).toNat = places at *
    split
    · next hshort =>
      rw [ofNumeral?_point, List.take_append_drop, hvalue, List.length_drop, hplaces]
      · congr 3
        omega
      · intro hnil
        have hlen := congrArg List.length hnil
        rw [List.length_take, List.length_nil] at hlen
        omega
      · exact fun c hc => hdigit c (List.mem_of_mem_take hc)
      · exact fun c hc => hdigit c (List.mem_of_mem_drop hc)
    · next hlong =>
      have hsplit : '0' :: '.' :: List.replicate (places - d.chars.length) '0' ++ d.chars =
          ['0'] ++ '.' :: (List.replicate (places - d.chars.length) '0' ++ d.chars) := rfl
      have hzeros : ['0'] ++ (List.replicate (places - d.chars.length) '0' ++ d.chars) =
          List.replicate (places - d.chars.length + 1) '0' ++ d.chars := rfl
      rw [hsplit, ofNumeral?_point (by simp), hzeros, decimalValue_zeros_append, hvalue,
        List.length_append, List.length_replicate, hplaces]
      · congr 3
        omega
      · intro c hc
        rw [List.mem_singleton.1 hc]
        rfl
      · intro c hc
        rcases List.mem_append.1 hc with hc | hc
        · exact isDigit_of_mem_zeros hc
        · exact hdigit c hc

/-! ## Decimals of a double -/

lemma powerOfTen_eq (k : Int) : powerOfTen k = (10 ^ k.toNat, 10 ^ (-k).toNat) := by
  unfold powerOfTen
  split
  · rw [show (-k).toNat = 0 by omega]
    rfl
  · rw [show k.toNat = 0 by omega]
    rfl

/-- The number of digits bounds a number from both sides. -/
lemma digitCount_bounds {n : Nat} (hn : 0 < n) :
    10 ^ (digitCount n - 1) ≤ n ∧ n < 10 ^ digitCount n := by
  have hpos : 0 < digitCount n := Nat.length_toDigits_pos
  refine ⟨?_, (Nat.length_toDigits_le_iff (by decide) hpos).1 (Nat.le_refl _)⟩
  rcases Nat.lt_or_ge 1 (digitCount n) with hmore | hone
  · by_contra hlt
    have hle := (Nat.length_toDigits_le_iff (b := 10) (n := n) (by decide)
      (by omega : 0 < digitCount n - 1)).2 (by omega)
    have hself : digitCount n = (Nat.toDigits 10 n).length := rfl
    omega
  · rw [show digitCount n - 1 = 0 by omega]
    exact hn

/-- The quotients of a positive double are neither too large nor too small for a double. -/
lemma Reach.Covers.range {num den : Nat} (h : Canonical m s) (hm : 0 < m) (hden : 0 < den)
    (hcovers : (reach m s).Covers num den) :
    num < 10 ^ 309 * den ∧ den < 10 ^ 324 * num := by
  obtain ⟨hlow, hhigh, -, -⟩ := hcovers.near
  have hlt : m < 2 ^ 53 := h.lt
  have hplace : 2 ^ s ≤ 2 ^ 2045 := Nat.pow_le_pow_right (by decide) h.le
  have hplace' : 2 ^ s * den ≤ 2 ^ 2045 * den := Nat.mul_le_mul_right _ hplace
  have hsig : m * (2 ^ s * den) ≤ (2 ^ 53 - 1) * (2 ^ s * den) := Nat.mul_le_mul_right _ (by omega)
  have hone : 1 * (2 ^ s * den) ≤ m * (2 ^ s * den) := Nat.mul_le_mul_right _ hm
  have hunit : 1 * den ≤ 2 ^ s * den := Nat.mul_le_mul_right _ (Nat.two_pow_pos s)
  have hunits : 2 * unitsPerOne < 10 ^ 324 := by decide +kernel
  have htop : 2 ^ 53 * 2 ^ 2045 ≤ 10 ^ 309 * unitsPerOne := by decide +kernel
  constructor
  · have hnum : num * unitsPerOne < 10 ^ 309 * unitsPerOne * den := by
      have hmul := Nat.mul_le_mul_right den htop
      rw [Nat.mul_assoc] at hmul
      omega
    rw [Nat.mul_right_comm] at hnum
    exact Nat.lt_of_mul_lt_mul_right hnum
  · have hnum : 0 < num := by
      rcases Nat.eq_zero_or_pos num with rfl | hnum
      · rw [Nat.zero_mul] at hlow
        omega
      · exact hnum
    have hmul := Nat.mul_lt_mul_of_pos_left hunits hnum
    rw [Nat.mul_left_comm, Nat.mul_comm num (10 ^ 324)] at hmul
    omega

/-- A decimal in the interval of a positive double is read as that double. -/
theorem ofDecimal_of_covers {digits : Nat} {exponent : Int} (h : Canonical m s) (hm : 0 < m)
    (hcovers : (reach m s).Covers (digits * (powerOfTen exponent).1) (powerOfTen exponent).2) :
    ofDecimal negative digits exponent = .finite negative m s h := by
  have hden := powerOfTen_pos exponent
  obtain ⟨hlt, hgt⟩ := hcovers.range h hm hden
  rw [powerOfTen_eq] at hlt hgt
  dsimp only at hlt hgt
  have hdigits : 0 < digits := by
    rcases Nat.eq_zero_or_pos digits with rfl | hdigits
    · rw [Nat.zero_mul, Nat.mul_zero] at hgt
      omega
    · exact hdigits
  obtain ⟨hfew, hmany⟩ := digitCount_bounds hdigits
  have hcount : 0 < digitCount digits := Nat.length_toDigits_pos
  have hlarge : ¬ 310 < exponent + digitCount digits := by
    have hpow : 10 ^ (digitCount digits - 1) * 10 ^ exponent.toNat <
        10 ^ 309 * 10 ^ (-exponent).toNat :=
      Nat.lt_of_le_of_lt (Nat.mul_le_mul_right _ hfew) hlt
    rw [← Nat.pow_add, ← Nat.pow_add, Nat.pow_lt_pow_iff_right (by decide)] at hpow
    omega
  have hsmall : ¬ exponent + digitCount digits < -330 := by
    have hpow : 10 ^ (-exponent).toNat <
        10 ^ 324 * (10 ^ digitCount digits * 10 ^ exponent.toNat) := by
      refine Nat.lt_of_lt_of_le hgt (Nat.mul_le_mul_left _ (Nat.mul_le_mul_right _ ?_))
      exact Nat.le_of_lt hmany
    rw [← Nat.pow_add, ← Nat.pow_add, Nat.pow_lt_pow_iff_right (by decide)] at hpow
    omega
  have hne : digits ≠ 0 := by omega
  unfold ofDecimal powerOfTen at *
  rw [if_neg hne, if_neg hlarge, if_neg hsmall]
  split
  · next hexp =>
    rw [if_pos hexp] at hcovers
    exact nearest_of_covers h Nat.one_pos hcovers
  · next hexp =>
    rw [if_neg hexp] at hcovers hden
    rw [Nat.mul_one] at hcovers
    exact nearest_of_covers h hden hcovers

/-! ## The round trip -/

/-- A positional form begins with a digit and has only digits and a point. -/
lemma positional_cases (d : Decimal) :
    (∃ c cs, d.positional [] = c :: cs ∧ c.isDigit = true) ∧
      ∀ c ∈ d.positional [], c.isDigit = true ∨ c = '.' := by
  have hdigit : ∀ c ∈ d.chars, c.isDigit = true := fun c => Decimal.isDigit_of_mem_chars
  have hpos : 0 < d.chars.length := Nat.length_toDigits_pos
  obtain ⟨first, rest, hchars⟩ := List.exists_cons_of_length_pos hpos
  have hfirst : first.isDigit = true := hdigit first (by rw [hchars]; exact List.mem_cons_self)
  unfold Decimal.positional
  dsimp only
  split
  · refine ⟨⟨first, _, by rw [hchars]; rfl, hfirst⟩, fun c hc => .inl ?_⟩
    rw [List.append_nil] at hc
    rcases List.mem_append.1 hc with hc | hc
    · exact hdigit c hc
    · exact isDigit_of_mem_zeros hc
  · generalize (-d.exponent).toNat = places
    split
    · next hshort =>
      constructor
      · obtain ⟨k, hk⟩ : ∃ k, d.chars.length - places = k + 1 :=
          ⟨d.chars.length - places - 1, by omega⟩
        refine ⟨first, rest.take k ++ '.' :: d.chars.drop (d.chars.length - places), ?_, hfirst⟩
        rw [hk, hchars]
        rfl
      · intro c hc
        rcases List.mem_append.1 hc with hc | hc
        · exact .inl (hdigit c (List.mem_of_mem_take hc))
        · rcases List.mem_cons.1 hc with rfl | hc
          · exact .inr rfl
          · exact .inl (hdigit c (List.mem_of_mem_drop hc))
    · refine ⟨⟨'0', _, rfl, rfl⟩, ?_⟩
      intro c hc
      rcases List.mem_append.1 hc with hc | hc
      · rcases List.mem_cons.1 hc with rfl | hc
        · exact .inl rfl
        · rcases List.mem_cons.1 hc with rfl | hc
          · exact .inr rfl
          · exact .inl (isDigit_of_mem_zeros hc)
      · exact .inl (hdigit c hc)

/-- A decimal digit is no sign. -/
lemma ne_sign_of_isDigit {c : Char} (hc : c.isDigit = true) : c ≠ '+' ∧ c ≠ '-' := by
  have hbounds := toNat_of_isDigit hc
  constructor
  · rintro rfl
    exact absurd hbounds.1 (by decide)
  · rintro rfl
    exact absurd hbounds.1 (by decide)

lemma splitSign_signChars {negative : Bool} {c : Char} {cs : List Char}
    (hc : c.isDigit = true) :
    splitSign (signChars negative ++ c :: cs) = (negative, c :: cs) := by
  cases negative with
  | true => rfl
  | false =>
    obtain ⟨hplus, hminus⟩ := ne_sign_of_isDigit hc
    simp only [signChars, Bool.false_eq_true, if_false, List.nil_append]
    unfold splitSign
    split <;> simp_all

/-- A word that begins with a digit is no name of a number. -/
lemma toLower_of_isDigit {c : Char} (hc : c.isDigit = true) : c.toLower = c := by
  have hbounds := toNat_of_isDigit hc
  unfold Char.toLower
  split
  · next hupper =>
    have hle : 'A'.toNat ≤ c.toNat := hupper.1
    have hA : 'A'.toNat = 65 := rfl
    omega
  · rfl

/-- A text with an optional minus sign and then a digit is read as a numeral. -/
lemma ofChars?_of_digit {c : Char} {cs : List Char} (hc : c.isDigit = true) :
    ofChars? (signChars negative ++ c :: cs) = ofNumeral? negative (c :: cs) := by
  have hbounds := toNat_of_isDigit hc
  have hword : ∀ (first : Char) (w : List Char), 57 < first.toNat →
      String.ofList ((c :: cs).map Char.toLower) ≠ String.ofList (first :: w) := by
    intro first w hfirst heq
    have hlist := String.ofList_injective heq
    rw [List.map_cons, toLower_of_isDigit hc] at hlist
    have hhead : c = first := (List.cons.inj hlist).1
    rw [hhead] at hbounds
    omega
  have hnan := hword 'n' ['a', 'n'] (by decide)
  have hinf := hword 'i' ['n', 'f'] (by decide)
  have hinfinity := hword 'i' ['n', 'f', 'i', 'n', 'i', 't', 'y'] (by decide)
  simp only [ofChars?, splitSign_signChars hc]
  rw [if_neg hnan, if_neg (not_or.2 ⟨hinf, hinfinity⟩)]

/-- Every double is what its text is read as. -/
theorem ofChars?_chars (x : Double) : ofChars? x.chars = some x := by
  cases x with
  | nan => decide
  | infinite negative => cases negative <;> decide
  | finite negative m s h =>
    rcases Nat.eq_zero_or_pos m with rfl | hm
    · have hs : s = 0 := by
        rcases h.normal with hnormal | hs
        · exact absurd hnormal (by decide)
        · exact hs
      subst hs
      cases negative <;> rfl
    · have hne : m ≠ 0 := by omega
      simp only [chars, if_neg hne]
      have hcovers := shortest_covers (s := s) .away hm
      generalize shortest .away m s = d at *
      obtain ⟨c, cs, hpos, hc⟩ := (positional_cases d).1
      rw [hpos, ofChars?_of_digit hc, ← hpos, ofNumeral?_positional]
      split
      · next hexp =>
        have hneg : (-d.exponent).toNat = 0 := by omega
        have hone : 10 ^ (-d.exponent).toNat = 1 := hneg ▸ rfl
        have hten : powerOfTen d.exponent = (10 ^ d.exponent.toNat, 1) := by
          rw [powerOfTen_eq, hone]
        rw [hten] at hcovers
        refine congrArg some (ofDecimal_of_covers h hm ?_)
        have hzero : powerOfTen 0 = (1, 1) := rfl
        rw [hzero, Nat.mul_one]
        exact hcovers
      · exact congrArg some (ofDecimal_of_covers h hm hcovers)

/-! ## Integers -/

/-- The text of an integer is its decimal digits after its sign. -/
lemma chars_ofInt {i : Int} (hi : i.natAbs ≤ 2 ^ 53) :
    (ofInt i).chars = signChars (i < 0) ++ Nat.toDigits 10 i.natAbs := by
  obtain ⟨m, s, h, heq, hunits⟩ := ofInt_eq hi
  rw [heq, chars]
  have hunit := unitsPerOne_pos
  rcases Nat.eq_zero_or_pos i.natAbs with hzero | hpos
  · have hm : m = 0 := by
      rw [hzero, Nat.zero_mul] at hunits
      exact (Nat.mul_eq_zero.1 hunits).resolve_right (Nat.ne_of_gt (Nat.two_pow_pos s))
    rw [if_pos hm, hzero, Nat.toDigits_zero]
  · have hm : m ≠ 0 := by
      rintro rfl
      have hmul := Nat.mul_pos hpos hunit
      omega
    obtain ⟨c, k, hshort, hc⟩ := shortest_integer h hi hunits .away hpos
    have hcpos : 0 < c := by
      rcases Nat.eq_zero_or_pos c with rfl | hcpos
      · rw [Nat.zero_mul] at hc
        omega
      · exact hcpos
    rw [if_neg hm, hshort, ← hc, toDigits_mul_pow hcpos]
    simp [Decimal.positional, Decimal.chars]

/-- An integer in decimal notation is its sign and its digits. -/
lemma toList_toString (i : Int) :
    (toString i).toList = signChars (i < 0) ++ Nat.toDigits 10 i.natAbs := by
  cases i with
  | ofNat n =>
    have hsign : decide ((Int.ofNat n) < 0) = false := by simp
    rw [hsign]
    exact Nat.toList_repr (n := n)
  | negSucc n =>
    have hsign : decide (Int.negSucc n < 0) = true := by simp [Int.negSucc_lt_zero]
    have htext : toString (Int.negSucc n) = "-" ++ (n + 1).repr := rfl
    rw [hsign, htext, String.toList_append, Nat.toList_repr]
    rfl

/-- The text of an integer up to `2 ^ 53` is the integer in decimal notation. -/
theorem text_ofInt {i : Int} (hi : i.natAbs ≤ 2 ^ 53) : (ofInt i).text = toString i := by
  rw [text, chars_ofInt hi, ← String.toList_inj, String.toList_ofList, toList_toString]

end Double

end TypedVars
