import TypedVars.Amount
import TypedVars.Proofs.Number.Rounding

/-!
# Integers among the doubles

Up to `2 ^ 53` every integer is a double, and its double is equal to it (`isInteger_ofInt`).  A double
that is equal to an integer, whatever its sign bit when it is zero, has it as its integer part
(`IsInteger.truncate?_eq`).
-/

namespace TypedVars

namespace Double

/-- A double is equal to an integer. -/
def IsInteger (x : Double) (i : Int) : Prop :=
  ∃ (negative : Bool) (m s : Nat) (h : Canonical m s), x = .finite negative m s h ∧
    (if negative then -((m * 2 ^ s : Nat) : Int) else ((m * 2 ^ s : Nat) : Int)) =
      i * (unitsPerOne : Int)

lemma exists_canonical {n : Nat} (hn : n ≤ 2 ^ 53) :
    ∃ m s, Canonical m s ∧ m * 2 ^ s = n * unitsPerOne := by
  rcases Nat.eq_zero_or_pos n with rfl | hpos
  · exact ⟨0, 0, ⟨by decide, by decide, .inr rfl⟩, by simp⟩
  · rcases Nat.eq_or_lt_of_le hn with rfl | hlt
    · refine ⟨2 ^ 52, 1075, ⟨by decide, by decide, .inl (by decide)⟩, ?_⟩
      rw [unitsPerOne_eq, ← Nat.pow_add, ← Nat.pow_add]
    · have hlog : n.log2 < 53 := (Nat.log2_lt (by omega)).2 hlt
      have hlow : 2 ^ n.log2 ≤ n := Nat.log2_self_le (by omega)
      have hhigh : n < 2 ^ (n.log2 + 1) := Nat.lt_log2_self
      generalize n.log2 = k at *
      have hscale : 0 < 2 ^ (52 - k) := Nat.two_pow_pos _
      refine ⟨n * 2 ^ (52 - k), 1022 + k, ⟨?_, by omega, .inl ?_⟩, ?_⟩
      · have hmul := Nat.mul_lt_mul_of_pos_right hhigh hscale
        rwa [← Nat.pow_add, show k + 1 + (52 - k) = 53 by omega] at hmul
      · have hmul := Nat.mul_le_mul_right (2 ^ (52 - k)) hlow
        rwa [← Nat.pow_add, show k + (52 - k) = 52 by omega] at hmul
      · rw [Nat.mul_assoc, ← Nat.pow_add, unitsPerOne_eq, show 52 - k + (1022 + k) = 1074 by omega]

/-- Where a double has the magnitude of an integer, the double of the integer has it too, and the
sign of the integer. -/
lemma ofInt_of_canonical {i : Int} {m s : Nat} (h : Canonical m s)
    (heq : m * 2 ^ s = i.natAbs * unitsPerOne) : ofInt i = .finite (i < 0) m s h := by
  have hexact : i.natAbs * unitsPerOne = m * (2 ^ s * 1) := by rw [Nat.mul_one, heq]
  rcases Nat.eq_zero_or_pos m with rfl | hm
  · have hs : s = 0 := by
      rcases h.normal with hnormal | hs
      · exact absurd hnormal (by decide)
      · exact hs
    have hzero : i = 0 := by
      have hmul : i.natAbs * unitsPerOne = 0 := by rw [← heq, Nat.zero_mul]
      have hpos := unitsPerOne_pos
      rcases Nat.mul_eq_zero.1 hmul with habs | hunits <;> omega
    subst hs hzero
    exact nearest_zero Nat.one_pos
  · exact nearest_of_eq h hm Nat.one_pos hexact

lemma ofInt_eq {i : Int} (hi : i.natAbs ≤ 2 ^ 53) :
    ∃ m s, ∃ h : Canonical m s, ofInt i = .finite (i < 0) m s h ∧
      m * 2 ^ s = i.natAbs * unitsPerOne := by
  obtain ⟨m, s, h, heq⟩ := exists_canonical hi
  exact ⟨m, s, h, ofInt_of_canonical h heq, heq⟩

lemma isInteger_ofInt {i : Int} (hi : i.natAbs ≤ 2 ^ 53) : (ofInt i).IsInteger i := by
  obtain ⟨m, s, h, heq, hunits⟩ := ofInt_eq hi
  refine ⟨decide (i < 0), m, s, h, heq, ?_⟩
  rw [hunits, Int.natCast_mul]
  by_cases hneg : i < 0
  · rw [if_pos (decide_eq_true hneg), ← Int.neg_mul, show -(i.natAbs : Int) = i by omega]
  · rw [if_neg (by simpa using hneg), show (i.natAbs : Int) = i by omega]

lemma IsInteger.truncate?_eq {x : Double} {i : Int} (h : x.IsInteger i) :
    x.truncate? = some i := by
  obtain ⟨negative, m, s, hc, rfl, heq⟩ := h
  have hpos := unitsPerOne_pos
  simp only [truncate?, Nat.pow_eq, Option.some.injEq]
  generalize m * 2 ^ s = magnitude at *
  have hne : (unitsPerOne : Int) ≠ 0 := by omega
  cases negative with
  | true =>
    have hmag : (magnitude : Int) = -i * unitsPerOne := by
      rw [if_pos rfl] at heq
      rw [Int.neg_mul, ← heq, Int.neg_neg]
    rw [if_pos rfl, Int.natCast_ediv, hmag, Int.mul_ediv_cancel _ hne, Int.neg_neg]
  | false =>
    have hmag : (magnitude : Int) = i * unitsPerOne := by
      rw [if_neg Bool.false_ne_true] at heq
      exact heq
    rw [if_neg Bool.false_ne_true, Int.natCast_ediv, hmag, Int.mul_ediv_cancel _ hne]

end Double

end TypedVars
