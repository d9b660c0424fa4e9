import Mathlib.Tactic.Common

/-!
# The order of texts and the order of their bytes

Texts are ordered by their code points, one after another.  In UTF-8 the bytes of two texts stand in
the same order (`bytes_lt_iff`): of two characters the greater one has the greater bytes already
where they first differ, since more bytes begin with a greater one, and among equally many the
digits to the base 64 follow from the highest to the lowest.
-/

namespace TypedVars

open String

/-- The bytes of a text in UTF-8. -/
def bytes (s : String) : List UInt8 := s.toUTF8.data.toList

lemma bytes_eq (s : String) : bytes s = s.toList.flatMap utf8EncodeChar := by
  rw [bytes, toUTF8_eq_toByteArray, ← utf8Encode_toList, List.utf8Encode,
    List.data_toByteArray]

/-! ## One character -/

lemma toNat_val_lt (c : Char) : c.val.toNat < 0x110000 := by
  have h : c.val.toNat.isValidChar := c.valid
  unfold Nat.isValidChar at h
  omega

/-- Of two numbers the lesser one has the lesser digit to the base 64 where they first differ. -/
lemma digits_lt {v w : Nat} (h : v < w) : v / 262144 < w / 262144 ∨ v / 262144 = w / 262144 ∧
    (v / 4096 % 64 < w / 4096 % 64 ∨ v / 4096 % 64 = w / 4096 % 64 ∧
      (v / 64 % 64 < w / 64 % 64 ∨ v / 64 % 64 = w / 64 % 64 ∧ v % 64 < w % 64)) := by
  omega

/-- The bytes of two characters differ before either of them ends, whatever comes after. -/
lemma utf8EncodeChar_append_lt {c d : Char} (h : c < d) (x y : List UInt8) :
    utf8EncodeChar c ++ x < utf8EncodeChar d ++ y := by
  have hlt : c.val.toNat < d.val.toNat := h
  have hd := toNat_val_lt d
  unfold utf8EncodeChar
  generalize c.val.toNat = v at *
  generalize d.val.toNat = w at *
  have hdigits := digits_lt hlt
  dsimp only
  -- one case for each pair of lengths
  split
  all_goals split_ifs
  all_goals
    simp only [List.cons_append, List.nil_append, List.cons_lt_cons_iff, UInt8.lt_iff_toNat_lt,
      UInt8.toNat_ofNat', ← UInt8.toNat_inj]
    generalize (x < y) = P
    simp (disch := omega) only [Nat.mod_eq_of_lt (b := 256), Nat.mod_eq_of_lt (b := 8)]
    omega

/-! ## Texts -/

lemma append_lt_append (l : List UInt8) {x y : List UInt8} (h : x < y) : l ++ x < l ++ y := by
  induction l with
  | nil => exact h
  | cons a l ih => exact List.cons_lt_cons_iff.2 (.inr ⟨rfl, ih⟩)

lemma flatMap_utf8EncodeChar_lt {cs ds : List Char} (h : cs < ds) :
    cs.flatMap utf8EncodeChar < ds.flatMap utf8EncodeChar := by
  induction h with
  | @nil d ds =>
    rw [List.flatMap_nil, List.flatMap_cons]
    obtain ⟨b, bs, hd⟩ := List.exists_cons_of_ne_nil (utf8EncodeChar_ne_nil (c := d))
    rw [hd]
    exact List.nil_lt_cons b _
  | @rel c cs d ds hlt => exact utf8EncodeChar_append_lt hlt _ _
  | @cons c cs ds _ ih => exact append_lt_append (utf8EncodeChar c) ih

/-- Texts are in the order of their bytes. -/
theorem bytes_lt_iff {s t : String} : bytes s < bytes t ↔ s < t := by
  rw [bytes_eq, bytes_eq]
  constructor
  · intro h
    by_contra hnot
    have hle : t ≤ s := Std.not_lt.1 hnot
    by_cases hst : s = t
    · subst hst
      exact List.lt_irrefl _ h
    · have hgt : t < s := Std.not_le.1 fun hle' => hst (Std.le_antisymm hle' hle)
      exact List.lt_asymm h (flatMap_utf8EncodeChar_lt hgt)
  · exact fun h => flatMap_utf8EncodeChar_lt h

end TypedVars
