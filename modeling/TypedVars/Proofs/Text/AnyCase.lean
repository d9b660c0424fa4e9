import Mathlib
import TypedVars.Text.Lowercase

/-!
# Words in any case

A word of small ASCII letters may be written with capitals in it (`InAnyCase`).  Such spellings are
found by the lower case of ASCII (`map_toLower_eq_iff`), and the lower case of all scripts finds no
others (`lowercase_eq_iff`): among the characters beyond ASCII only the Kelvin sign has the lower
case of an ASCII letter, and only for the letter `k`.  The final form of a sigma plays no part in
this, since no form of a sigma is an ASCII letter.
-/

namespace TypedVars

/-- A word of small letters, each of which may be written as a capital. -/
def InAnyCase (word : String) (cs : List Char) : Prop :=
  List.Forall₂ (fun c l => c = l ∨ c = l.toUpper) cs word.toList

lemma InAnyCase.self (word : String) : InAnyCase word word.toList :=
  List.forall₂_same.2 fun _ _ => .inl rfl

variable {c l : Char} {cs ls : List Char}

/-- The small letter and its capital are what has the small letter as its lower case. -/
lemma toLower_eq_iff (hl : l.isLower = true) : c.toLower = l ↔ c = l ∨ c = l.toUpper := by
  constructor
  · rintro rfl
    by_cases hc : c.isUpper = true
    · right
      rw [Char.toUpper_toLower_eq_toUpper,
        Char.toUpper_eq_of_not_isLower (Char.not_isLower_of_isUpper hc)]
    · left
      rw [Char.toLower_eq_of_not_isUpper hc]
  · have hself : l.toLower = l := Char.toLower_eq_of_not_isUpper (Char.not_isUpper_of_isLower hl)
    rintro (rfl | rfl)
    · exact hself
    · rw [Char.toLower_toUpper_eq_toLower, hself]

lemma map_toLower_eq_iff (hls : ∀ l ∈ ls, l.isLower = true) :
    cs.map Char.toLower = ls ↔ List.Forall₂ (fun c l => c = l ∨ c = l.toUpper) cs ls := by
  induction cs generalizing ls with
  | nil => cases ls <;> simp
  | cons c cs ih =>
    cases ls with
    | nil => simp
    | cons l ls =>
      obtain ⟨hl, hls⟩ := List.forall_mem_cons.1 hls
      rw [List.map_cons, List.cons.injEq, List.forall₂_cons, toLower_eq_iff hl, ih hls]

lemma ofList_map_toLower_eq_iff {word : String} (hword : word.toList.all Char.isLower = true) :
    String.ofList (cs.map Char.toLower) = word ↔ InAnyCase word cs := by
  rw [InAnyCase, ← map_toLower_eq_iff (List.all_eq_true.1 hword), ← String.toList_inj,
    String.toList_ofList]

/-! ## Beyond ASCII -/

/-- The small letters of ASCII but `k`. -/
def isPlainLetter (l : Char) : Bool := l.isLower && l != 'k'

lemma toNat_of_isLower (hl : l.isLower = true) : l.toNat < 0x80 := by
  simp only [Char.isLower, Bool.and_eq_true, decide_eq_true_eq, ge_iff_le, UInt32.le_iff_toNat_le,
    Char.toNat_val] at hl
  have hz : 'z'.toNat = 122 := rfl
  omega

lemma isPlainLetter_of_le (hl : 0x80 ≤ l.toNat) : isPlainLetter l = false := by
  rw [isPlainLetter, Bool.and_eq_false_iff, Bool.eq_false_iff]
  exact .inl fun hlower => absurd (toNat_of_isLower hlower) (by omega)

lemma isPlainLetter_ofNat {n : ℕ} (hn : 0x80 ≤ n) : isPlainLetter (Char.ofNat n) = false := by
  by_cases hvalid : n.isValidChar
  · exact isPlainLetter_of_le (by rwa [Char.toNat_ofNat, if_pos hvalid])
  · have hzero : Char.ofNat n = Char.ofNat 0 := by
      rw [← Char.toNat_inj, Char.toNat_ofNat, if_neg hvalid]
      rfl
    rw [hzero]
    rfl

/-- The mappings beyond ASCII stay beyond ASCII, but for the one of the Kelvin sign. -/
lemma le_of_mem_lowerRuns : ∀ r ∈ lowerRuns, (0x80 : ℤ) ≤ r.first + r.distance ∨
    r.first = r.last ∧ (r.first : ℤ) + r.distance = 'k'.toNat := by
  decide +kernel

lemma exists_mem_lowerChar (hc : 0x80 ≤ c.toNat) : ∃ d ∈ lowerChar c, isPlainLetter d = false := by
  unfold lowerChar
  rw [if_neg (by omega)]
  split
  · exact ⟨Char.ofNat 0x307, by simp, by decide⟩
  · split
    · next r hfind =>
      refine ⟨_, List.mem_singleton_self _, ?_⟩
      have hhas := List.find?_some hfind
      simp only [LowerRun.has, Bool.and_eq_true, decide_eq_true_eq] at hhas
      rcases le_of_mem_lowerRuns r (List.mem_of_find?_eq_some hfind) with hle | ⟨hone, hkelvin⟩
      · exact isPlainLetter_ofNat (by omega)
      · have hk : (c.toNat + r.distance).toNat = 'k'.toNat := by omega
        rw [hk]
        decide
    · exact ⟨c, List.mem_singleton_self _, isPlainLetter_of_le hc⟩

lemma exists_mem_lowerFrom (hc : 0x80 ≤ c.toNat) (before cs : List Char) :
    ∃ d ∈ lowerFrom before (c :: cs), isPlainLetter d = false := by
  rw [lowerFrom]
  split
  · split
    · exact ⟨_, List.mem_append_left _ (List.mem_singleton_self _), by decide⟩
    · exact ⟨_, List.mem_append_left _ (List.mem_singleton_self _), by decide⟩
  · obtain ⟨d, hd, hplain⟩ := exists_mem_lowerChar hc
    exact ⟨d, List.mem_append_left _ hd, hplain⟩

lemma toLower_of_le (hc : 0x80 ≤ c.toNat) : c.toLower = c := by
  refine Char.toLower_eq_of_not_isUpper ?_
  simp only [Char.isUpper, decide_eq_true_eq, UInt32.le_iff_toNat_le, ge_iff_le, Char.toNat_val]
  have hz : 'Z'.toNat = 90 := rfl
  omega

/-- The lower case of all scripts finds the spellings of a word that the one of ASCII finds. -/
lemma lowerFrom_eq_iff (hls : ∀ l ∈ ls, isPlainLetter l = true) (before : List Char) :
    lowerFrom before cs = ls ↔ cs.map Char.toLower = ls := by
  induction cs generalizing before ls with
  | nil => rfl
  | cons c cs ih =>
    by_cases hc : c.toNat < 0x80
    · have hsigma : c.toNat ≠ 0x3A3 := by omega
      simp only [lowerFrom, hsigma, if_false, lowerChar, hc, if_true, List.map_cons,
        List.singleton_append]
      cases ls with
      | nil => simp
      | cons l ls => rw [List.cons.injEq, List.cons.injEq, ih (List.forall_mem_cons.1 hls).2]
    · -- neither side holds of a text with a character beyond ASCII
      have hle : 0x80 ≤ c.toNat := by omega
      constructor
      · intro heq
        obtain ⟨d, hd, hplain⟩ := exists_mem_lowerFrom hle before cs
        rw [hls d (heq ▸ hd)] at hplain
        cases hplain
      · intro heq
        have hmem : c ∈ ls := by
          rw [← heq, List.map_cons, toLower_of_le hle]
          exact List.mem_cons_self
        have hplain := isPlainLetter_of_le hle
        rw [hls c hmem] at hplain
        cases hplain

/-- The texts whose lower case is a word of plain letters are the spellings of that word in any
case. -/
theorem lowercase_eq_iff {s word : String} (hword : word.toList.all isPlainLetter = true) :
    lowercase s = word ↔ InAnyCase word s.toList := by
  have hplain : ∀ l ∈ word.toList, isPlainLetter l = true := List.all_eq_true.1 hword
  have hlower : ∀ l ∈ word.toList, l.isLower = true := fun l hl =>
    (Bool.and_eq_true_iff.1 (hplain l hl)).1
  rw [lowercase, InAnyCase, ← map_toLower_eq_iff hlower, ← lowerFrom_eq_iff hplain [],
    ← String.toList_inj, String.toList_ofList]

end TypedVars
