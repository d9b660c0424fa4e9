import TypedVars.Proofs.Number.Nearest
import TypedVars.Proofs.Value

/-!
# The integers that amounts and values count as

Every text has a head in which an integer may stand (`Headed`): white space, at most one sign, the
run of decimal digits that follows, and the rest from where the run ends.  The digits are taken in
one by one, and the integer is clamped at each of them; that is the same as to clamp the integer of
the whole run (`foldl_pushDigit`), since the digits of one sign only lead away from zero.  So a text
counts as the integer that it begins with (`BeginsWith`), clamped, and as none where the run is
empty (`leadingInt?_eq_some_iff`).

Every amount counts as an integer of 64 bits (`Amount.clamp_delta`).
-/

namespace TypedVars

/-! ## Clamping -/

@[simp]
lemma clamp_clamp (i : ℤ) : clamp (clamp i) = clamp i := by
  simp only [clamp, minInt64, maxInt64]
  omega

lemma clamp_eq_self {i : ℤ} (hlow : minInt64 ≤ i) (hhigh : i ≤ maxInt64) : clamp i = i := by
  simp only [clamp, minInt64, maxInt64] at *
  omega

lemma natAbs_clamp_le (i : ℤ) : (clamp i).natAbs ≤ 2 ^ 63 := by
  simp only [clamp, minInt64, maxInt64]
  omega

/-- The double of a clamped integer is the nearest one. -/
lemma Double.isNearest_ofInt_clamp (i : ℤ) : (ofInt (clamp i)).IsNearest (clamp i) := by
  apply isNearest_ofInt
  have hle := natAbs_clamp_le i
  rcases Nat.eq_zero_or_pos (clamp i).natAbs with hzero | hpos
  · rw [hzero]
    decide
  · have hlog : (clamp i).natAbs.log2 < 64 := (Nat.log2_lt (by omega)).2 (by omega)
    omega

/-! ## Leading integers -/

/-- To clamp after each digit is to clamp in the end. -/
lemma foldl_pushDigit (negative : Bool) (ds : List Char) :
    ds.foldl (pushDigit negative) 0 = clamp (Double.signed negative (decimalValue ds)) := by
  induction ds using List.reverseRecOn with
  | nil => cases negative <;> rfl
  | append_singleton ds c ih =>
    have hvalue : decimalValue (ds ++ [c]) = 10 * decimalValue ds + digitValue c := by
      simp [decimalValue]
    rw [List.foldl_append, ih, hvalue]
    generalize decimalValue ds = n
    simp only [List.foldl_cons, List.foldl_nil, pushDigit]
    generalize digitValue c = d
    cases negative <;>
    · simp only [Double.signed, clamp, minInt64, maxInt64, if_true, Bool.false_eq_true, if_false]
      push_cast
      omega

lemma splitSign_append {sign body : List Char} (hsign : sign ∈ [[], ['+'], ['-']])
    (hbody : sign = [] → ∀ c ∈ body.head?, c ≠ '+' ∧ c ≠ '-') :
    splitSign (sign ++ body) = (decide (sign = ['-']), body) := by
  simp only [List.mem_cons, List.not_mem_nil, or_false] at hsign
  rcases hsign with rfl | rfl | rfl
  · unfold splitSign
    split
    · next heq =>
      obtain rfl : body = _ := heq
      exact absurd rfl (hbody rfl '-' rfl).2
    · next heq =>
      obtain rfl : body = _ := heq
      exact absurd rfl (hbody rfl '+' rfl).1
    · rfl
  · rfl
  · rfl

lemma exists_splitSign (cs : List Char) : ∃ sign ∈ [[], ['+'], ['-']],
    cs = sign ++ (splitSign cs).2 ∧ (splitSign cs).1 = decide (sign = ['-']) := by
  unfold splitSign
  split
  · exact ⟨['-'], by simp, rfl, rfl⟩
  · exact ⟨['+'], by simp, rfl, rfl⟩
  · exact ⟨[], by simp, rfl, rfl⟩

/-- A text as white space, at most one sign, a run of decimal digits, and the rest after the run.
The white space and the run are as long as they can be, and a sign is taken where there is one. -/
structure Headed (s : String) (blanks sign digits rest : List Char) : Prop where
  text : s.toList = blanks ++ (sign ++ (digits ++ rest))
  blank : ∀ c ∈ blanks, isBlank c = true
  trimmed : ∀ c ∈ (sign ++ (digits ++ rest)).head?, isBlank c = false
  signed : sign ∈ [[], ['+'], ['-']]
  unsigned : sign = [] → ∀ c ∈ (digits ++ rest).head?, c ≠ '+' ∧ c ≠ '-'
  digit : ∀ c ∈ digits, c.isDigit = true
  ended : ∀ c ∈ rest.head?, c.isDigit = false

lemma exists_headed (s : String) : ∃ blanks sign digits rest, Headed s blanks sign digits rest := by
  obtain ⟨sign, hsign, hsplit, -⟩ := exists_splitSign (trimStart s.toList)
  have hbody : ∀ cs : List Char, cs.takeWhile Char.isDigit ++ cs.dropWhile Char.isDigit = cs :=
    fun _ => List.takeWhile_append_dropWhile
  refine ⟨s.toList.takeWhile isBlank, sign,
    (splitSign (trimStart s.toList)).2.takeWhile Char.isDigit,
    (splitSign (trimStart s.toList)).2.dropWhile Char.isDigit, ?_, ?_, ?_, hsign, ?_, ?_, ?_⟩
  · rw [hbody, ← hsplit, trimStart, List.takeWhile_append_dropWhile]
  · exact fun c hc => List.mem_takeWhile_imp hc
  · rw [hbody, ← hsplit]
    intro c hc
    have hhead := List.head?_dropWhile_not isBlank s.toList
    rw [← trimStart, Option.mem_def.1 hc] at hhead
    simpa using hhead
  · rintro rfl c hc
    rw [List.nil_append] at hsplit
    rw [hbody, ← hsplit] at hc
    -- a sign would have been split off
    generalize trimStart s.toList = cs at hc hsplit
    constructor <;> rintro rfl <;> obtain ⟨ds, rfl⟩ := List.head?_eq_some_iff.1 hc <;>
      exact absurd (congrArg List.length hsplit) (by simp [splitSign])
  · exact fun c hc => List.mem_takeWhile_imp hc
  · intro c hc
    have hhead := List.head?_dropWhile_not Char.isDigit (splitSign (trimStart s.toList)).2
    rw [Option.mem_def.1 hc] at hhead
    simpa using hhead

/-- The integer of a text is what the run of digits in its head writes. -/
theorem Headed.leadingInt?_eq {s : String} {blanks sign digits rest : List Char}
    (h : Headed s blanks sign digits rest) :
    leadingInt? s = if digits = [] then none
      else some (clamp (Double.signed (sign = ['-']) (decimalValue digits))) := by
  have htrim : trimStart s.toList = sign ++ (digits ++ rest) := by
    rw [h.text]
    exact dropWhile_append_of_head h.blank h.trimmed
  have hsplit := splitSign_append h.signed h.unsigned
  have htake : (digits ++ rest).takeWhile Char.isDigit = digits :=
    takeWhile_append_of_head h.digit h.ended
  simp only [leadingInt?, htrim, hsplit, htake, foldl_pushDigit, List.isEmpty_iff]

/-- A run that is not empty makes a head: no digit is white space or a sign. -/
lemma headed_of_digits {s : String} {blanks sign digits rest : List Char}
    (htext : s.toList = blanks ++ (sign ++ (digits ++ rest)))
    (hblank : ∀ c ∈ blanks, isBlank c = true) (hsigned : sign ∈ [[], ['+'], ['-']])
    (hne : digits ≠ []) (hdigit : ∀ c ∈ digits, c.isDigit = true)
    (hended : ∀ c ∈ rest.head?, c.isDigit = false) : Headed s blanks sign digits rest := by
  obtain ⟨c, ds, rfl⟩ := List.exists_cons_of_ne_nil hne
  have hc : c.isDigit = true := hdigit c List.mem_cons_self
  refine ⟨htext, hblank, ?_, hsigned, fun _ => ?_, hdigit, hended⟩
  · simp only [List.mem_cons, List.not_mem_nil, or_false] at hsigned
    rcases hsigned with rfl | rfl | rfl <;> intro a ha <;> cases ha
    · exact isBlank_of_isDigit hc
    · decide
    · decide
  · rintro a ⟨⟩
    exact Double.ne_sign_of_isDigit hc

/-- A text begins with an integer: after white space and at most one sign there is a run of decimal
digits, and no further digit follows it. -/
def BeginsWith (s : String) (i : ℤ) : Prop :=
  ∃ blanks sign digits rest, s.toList = blanks ++ sign ++ digits ++ rest ∧
    (∀ c ∈ blanks, isBlank c = true) ∧ sign ∈ [[], ['+'], ['-']] ∧
    digits ≠ [] ∧ (∀ c ∈ digits, c.isDigit = true) ∧ (∀ c ∈ rest.head?, c.isDigit = false) ∧
    i = Double.signed (sign = ['-']) (decimalValue digits)

lemma BeginsWith.leadingInt?_eq {s : String} {i : ℤ} (h : BeginsWith s i) :
    leadingInt? s = some (clamp i) := by
  obtain ⟨blanks, sign, digits, rest, hs, hblanks, hsign, hne, hdigits, hrest, rfl⟩ := h
  have htext : s.toList = blanks ++ (sign ++ (digits ++ rest)) := by
    simpa only [List.append_assoc] using hs
  have hhead := headed_of_digits htext hblanks hsign hne hdigits hrest
  rw [hhead.leadingInt?_eq, if_neg hne]

lemma exists_beginsWith {s : String} (h : leadingInt? s ≠ none) : ∃ i, BeginsWith s i := by
  obtain ⟨blanks, sign, digits, rest, hhead⟩ := exists_headed s
  have hne : digits ≠ [] := by
    intro hnil
    rw [hhead.leadingInt?_eq, if_pos hnil] at h
    exact h rfl
  refine ⟨_, blanks, sign, digits, rest, ?_, hhead.blank, hhead.signed, hne, hhead.digit,
    hhead.ended, rfl⟩
  simpa only [List.append_assoc] using hhead.text

/-- A text counts as the integer that it begins with, clamped, and else as none. -/
theorem leadingInt?_eq_some_iff {s : String} {j : ℤ} :
    leadingInt? s = some j ↔ ∃ i, BeginsWith s i ∧ j = clamp i := by
  constructor
  · intro h
    obtain ⟨i, hi⟩ := exists_beginsWith (s := s) (by simp [h])
    rw [hi.leadingInt?_eq] at h
    exact ⟨i, hi, (Option.some.inj h).symm⟩
  · rintro ⟨i, hi, rfl⟩
    exact hi.leadingInt?_eq

/-! ## Amounts -/

lemma leadingInt?_clamped {s : String} {j : ℤ} (h : leadingInt? s = some j) : clamp j = j := by
  obtain ⟨i, -, rfl⟩ := leadingInt?_eq_some_iff.1 h
  exact clamp_clamp i

lemma Double.toInt64?_clamped {x : Double} {j : ℤ} (h : x.toInt64? = some j) : clamp j = j := by
  obtain ⟨i, -, rfl⟩ := Option.map_eq_some_iff.1 h
  exact clamp_clamp i

lemma clamp_getD {r : Option ℤ} (h : ∀ j, r = some j → clamp j = j) :
    clamp (r.getD 0) = r.getD 0 := by
  cases r with
  | none => rfl
  | some j => exact h j rfl

namespace Amount

lemma clamp_numberDelta (n : JsonNumber) : clamp (numberDelta n) = numberDelta n := by
  cases n with
  | int i =>
    rw [numberDelta]
    split
    · next hrange => exact clamp_eq_self hrange.1 hrange.2
    · exact clamp_getD fun j => Double.toInt64?_clamped
  | double x => exact clamp_getD fun j => Double.toInt64?_clamped

/-- Every amount counts as an integer of 64 bits. -/
theorem clamp_delta (a : Amount) : clamp a.delta = a.delta := by
  induction a with
  | int64 i => exact clamp_eq_self i.minValue_le_toInt i.toInt_le
  | int32 i =>
    have hlow := i.le_toInt
    have hhigh := i.toInt_lt
    exact clamp_eq_self (by simp only [delta, minInt64]; omega)
      (by simp only [delta, maxInt64]; omega)
  | uint32 n =>
    have hlt := n.toNat_lt
    exact clamp_eq_self (by simp only [delta, minInt64]; omega)
      (by simp only [delta, maxInt64]; omega)
  | double x => exact clamp_getD fun j => Double.toInt64?_clamped
  | text s => exact clamp_getD fun j => leadingInt?_clamped
  | json j =>
    cases j with
    | number n => exact clamp_numberDelta n
    | string s => exact clamp_getD fun j => leadingInt?_clamped
    | null | bool | array | object => rfl
  | missing => rfl
  | given a ih => exact ih

end Amount

end TypedVars
