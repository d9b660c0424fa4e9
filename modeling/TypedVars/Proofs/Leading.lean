import TypedVars.Proofs.Amount
import TypedVars.Proofs.Text.ByteOrder
import TypedVars.Text.Encoded

/-!
# Leading integers

The integer that a text counts as stands in its head: there is one just when a digit follows the
white space and the sign (`Headed.digits_eq_nil_iff`), and then it is the number that the run of
digits writes.  What comes after the run does not matter (`Headed.append`), and an integer in decimal
notation is nothing but a head (`headed_toString`).

The head might as well be cut off by bytes (`sliceInt?_eq`).  A byte of the run is a character of
it, since no byte of a wider character is a digit or a sign, so no cut falls inside of a character.
-/

namespace TypedVars

open String

/-! ## The head of a text -/

variable {s : String} {blanks sign digits rest : List Char}

lemma Headed.digits_eq_nil_iff (h : Headed s blanks sign digits rest) :
    digits = [] ↔ ∀ c ∈ (digits ++ rest).head?, c.isDigit = false := by
  constructor
  · rintro rfl
    exact h.ended
  · intro hhead
    cases digits with
    | nil => rfl
    | cons c ds =>
      have hc := h.digit c List.mem_cons_self
      rw [hhead c rfl] at hc
      cases hc

/-- The head stays the same when the text goes on with something that is no digit. -/
lemma Headed.append (h : Headed s blanks sign digits rest) (hne : digits ≠ []) {tail : String}
    (htail : ∀ c ∈ tail.toList.head?, c.isDigit = false) :
    Headed (s ++ tail) blanks sign digits (rest ++ tail.toList) := by
  refine headed_of_digits ?_ h.blank h.signed hne h.digit ?_
  · rw [String.toList_append, h.text]
    simp only [List.append_assoc]
  · cases rest with
    | nil => exact htail
    | cons c cs => exact h.ended

lemma signChars_mem (negative : Bool) : Double.signChars negative ∈ [[], ['+'], ['-']] := by
  cases negative <;> simp [Double.signChars]

lemma headed_toString (i : ℤ) :
    Headed (toString i) [] (Double.signChars (i < 0)) (Nat.toDigits 10 i.natAbs) [] := by
  refine headed_of_digits ?_ (by simp) (signChars_mem _) Nat.toDigits_ne_nil (fun c hc => ?_)
    (by simp)
  · rw [List.nil_append, List.append_nil]
    exact Double.toList_toString i
  · exact Nat.isDigit_of_mem_toDigits (by decide) (by decide) hc

lemma leadingInt?_toString (i : ℤ) : leadingInt? (toString i) = some (clamp i) := by
  have hvalue : Double.signed (Double.signChars (i < 0) = ['-']) i.natAbs = i := by
    by_cases hneg : i < 0
    · simp only [Double.signChars, Double.signed, hneg, decide_true, if_true]
      omega
    · simp only [Double.signChars, Double.signed, hneg, decide_false, Bool.false_eq_true, if_false,
        List.nil_eq, reduceCtorEq]
      omega
  rw [(headed_toString i).leadingInt?_eq, if_neg Nat.toDigits_ne_nil,
    decimalValue_toDigits, hvalue]

/-! ## The head by bytes -/

/-- The bytes of some characters in UTF-8. -/
def encoded (cs : List Char) : List UInt8 := cs.flatMap utf8EncodeChar

/-- Whether a byte is a decimal digit. -/
def isDigitByte (b : UInt8) : Bool := 48 ≤ b.toNat && b.toNat ≤ 57

/-- One more digit behind an integer that grows away from zero, the digit given by its byte. -/
def pushByte (negative : Bool) (acc : ℤ) (b : UInt8) : ℤ :=
  let d : ℤ := (b.toNat - 48 : ℕ)
  clamp (clamp (acc * 10) + if negative then -d else d)

/-- The integer of a run of digit bytes that a text begins with.  The run is cut off where the bytes
say, and there is no result at all when that cut falls inside of a character. -/
def sliceRun? (negative : Bool) (cs : List Char) : Option (Option ℤ) :=
  let stop := ((encoded cs).takeWhile isDigitByte).length
  if stop = 0 then some none
  else (takeBytes? stop cs).map fun run => some ((encoded run).foldl (pushByte negative) 0)

/-- The integer that a text begins with, where the sign and the digits are found by their bytes and
cut off by their places. -/
def sliceInt? (s : String) : Option (Option ℤ) :=
  let cs := trimStart s.toList
  match (encoded cs).head? with
  | some 45 => (dropBytes? 1 cs).bind (sliceRun? true)
  | some 43 => (dropBytes? 1 cs).bind (sliceRun? false)
  | _ => sliceRun? false cs

/-- The bytes of a character are the character itself, or none of them is one of ASCII. -/
lemma utf8EncodeChar_cases (c : Char) :
    (c.toNat < 128 ∧ utf8EncodeChar c = [c.toNat.toUInt8]) ∨
      (128 ≤ c.toNat ∧ ∃ b bs, utf8EncodeChar c = b :: bs ∧ 128 ≤ b.toNat) := by
  have hc := toNat_val_lt c
  change c.toNat < _ at hc
  by_cases hascii : c.toNat < 128
  · refine .inl ⟨hascii, ?_⟩
    have hle : c.toNat ≤ 127 := by omega
    simp [utf8EncodeChar, Char.toNat_val, hle]
  · refine .inr ⟨by omega, ?_⟩
    have hle : ¬ c.val.toNat ≤ 127 := by
      change ¬ c.toNat ≤ 127
      omega
    unfold utf8EncodeChar
    simp only [hle, if_false]
    split_ifs
    all_goals
      refine ⟨_, _, rfl, ?_⟩
      simp only [UInt8.toNat_ofNat']
      omega

lemma isDigitByte_of_ascii {c : Char} (hc : c.toNat < 128) :
    isDigitByte c.toNat.toUInt8 = c.isDigit := by
  have hbyte : c.toNat.toUInt8.toNat = c.toNat := by
    rw [Nat.toUInt8_eq, UInt8.toNat_ofNat']
    omega
  rw [Bool.eq_iff_iff, Char.isDigit_iff_toNat, isDigitByte, hbyte, Bool.and_eq_true,
    decide_eq_true_iff, decide_eq_true_iff]
  exact Iff.rfl

/-- The digit bytes that a text begins with are those of the digits that it begins with. -/
lemma takeWhile_encoded (cs : List Char) :
    (encoded cs).takeWhile isDigitByte = encoded (cs.takeWhile Char.isDigit) := by
  induction cs with
  | nil => rfl
  | cons c cs ih =>
    rw [encoded, List.flatMap_cons, ← encoded]
    rcases utf8EncodeChar_cases c with ⟨hc, hbytes⟩ | ⟨hc, b, bs, hbytes, hb⟩
    · rw [hbytes, List.singleton_append, List.takeWhile_cons, List.takeWhile_cons,
        isDigitByte_of_ascii hc]
      cases c.isDigit with
      | true =>
        rw [if_pos rfl, if_pos rfl, ih, encoded, encoded, List.flatMap_cons, hbytes,
          List.singleton_append]
      | false => rfl
    · have hbyte : isDigitByte b = false := by
        simp only [isDigitByte, Bool.and_eq_false_iff, decide_eq_false_iff_not]
        omega
      have hdigit : ¬ c.isDigit = true := by
        intro hdigit
        have hbounds := toNat_of_isDigit hdigit
        omega
      rw [hbytes, List.cons_append, List.takeWhile_cons, hbyte, List.takeWhile_cons_of_neg hdigit]
      rfl

lemma takeBytes?_encoded (cs rest : List Char) :
    takeBytes? (encoded cs).length (cs ++ rest) = some cs := by
  induction cs with
  | nil => cases rest <;> rfl
  | cons c cs ih =>
    have hlength : (encoded (c :: cs)).length = c.utf8Size + (encoded cs).length := by
      rw [encoded, List.flatMap_cons, List.length_append, length_utf8EncodeChar, encoded]
    obtain ⟨n, hn⟩ := Nat.exists_eq_add_of_lt c.utf8Size_pos
    have hsucc : (encoded (c :: cs)).length = (n + (encoded cs).length) + 1 := by omega
    have hle : c.utf8Size ≤ n + (encoded cs).length + 1 := by omega
    have hrest : n + (encoded cs).length + 1 - c.utf8Size = (encoded cs).length := by omega
    rw [hsucc, List.cons_append, takeBytes?, if_pos hle, hrest, ih, Option.map_some]

lemma foldl_pushByte (negative : Bool) {run : List Char} (hrun : ∀ c ∈ run, c.isDigit = true)
    (acc : ℤ) : (encoded run).foldl (pushByte negative) acc = run.foldl (pushDigit negative) acc := by
  induction run generalizing acc with
  | nil => rfl
  | cons c run ih =>
    have hbounds := toNat_of_isDigit (hrun c List.mem_cons_self)
    have hrest := ih fun d hd => hrun d (List.mem_cons_of_mem c hd)
    rcases utf8EncodeChar_cases c with ⟨hc, hbytes⟩ | ⟨hc, -⟩
    · have hbyte : c.toNat.toUInt8.toNat = c.toNat := by
        rw [Nat.toUInt8_eq, UInt8.toNat_ofNat']
        omega
      have hpush : pushByte negative acc c.toNat.toUInt8 = pushDigit negative acc c := by
        rw [pushByte, pushDigit, hbyte, digitValue]
        rfl
      rw [encoded, List.flatMap_cons, hbytes, List.singleton_append, List.foldl_cons, hpush,
        ← encoded, hrest, List.foldl_cons]
    · omega

lemma sliceRun?_eq (negative : Bool) (cs : List Char) : sliceRun? negative cs =
    some (if (cs.takeWhile Char.isDigit).isEmpty then none
      else some ((cs.takeWhile Char.isDigit).foldl (pushDigit negative) 0)) := by
  have hcut := takeBytes?_encoded (cs.takeWhile Char.isDigit) (cs.dropWhile Char.isDigit)
  rw [List.takeWhile_append_dropWhile] at hcut
  have hfold := foldl_pushByte negative
    (fun c (hc : c ∈ cs.takeWhile Char.isDigit) => List.mem_takeWhile_imp hc) 0
  simp only [sliceRun?, takeWhile_encoded, hcut, Option.map_some, hfold]
  generalize cs.takeWhile Char.isDigit = run
  cases run with
  | nil => rfl
  | cons c run =>
    have hpos : (encoded (c :: run)).length ≠ 0 := by
      have hc := c.utf8Size_pos
      rw [encoded, List.flatMap_cons, List.length_append, length_utf8EncodeChar]
      omega
    rw [if_neg hpos]
    rfl

lemma dropBytes?_one {c : Char} (hc : c.utf8Size = 1) (cs : List Char) :
    dropBytes? 1 (c :: cs) = some cs := by
  simp [dropBytes?, hc]

lemma head?_encoded {c : Char} (hplus : c ≠ '+') (hminus : c ≠ '-') (cs : List Char) :
    ∃ b, (encoded (c :: cs)).head? = some b ∧ b ≠ 45 ∧ b ≠ 43 := by
  rw [encoded, List.flatMap_cons]
  rcases utf8EncodeChar_cases c with ⟨hc, hbytes⟩ | ⟨-, b, bs, hbytes, hb⟩
  · have hchar : ∀ n : ℕ, c.toNat.toUInt8.toNat = n → c = Char.ofNat n := by
      rintro n rfl
      rw [Nat.toUInt8_eq, UInt8.toNat_ofNat', Nat.mod_eq_of_lt (by omega), Char.ofNat_toNat]
    refine ⟨_, by rw [hbytes]; rfl, fun h => hminus ?_, fun h => hplus ?_⟩
    · exact hchar 45 (congrArg UInt8.toNat h)
    · exact hchar 43 (congrArg UInt8.toNat h)
  · refine ⟨b, by rw [hbytes]; rfl, ?_, ?_⟩ <;>
    · rintro rfl
      exact absurd hb (by decide)

/-- To read the integer of a text by its bytes comes to the same, and never cuts a character. -/
theorem sliceInt?_eq (s : String) : sliceInt? s = some (leadingInt? s) := by
  unfold sliceInt? leadingInt?
  generalize trimStart s.toList = cs
  rcases cs with _ | ⟨c, cs⟩
  · exact sliceRun?_eq false []
  by_cases hminus : c = '-'
  · subst hminus
    have hhead : (encoded ('-' :: cs)).head? = some 45 := rfl
    have hdrop : dropBytes? 1 ('-' :: cs) = some cs := dropBytes?_one (by decide) cs
    simp only [hhead, hdrop, Option.bind_some]
    exact sliceRun?_eq true cs
  by_cases hplus : c = '+'
  · subst hplus
    have hhead : (encoded ('+' :: cs)).head? = some 43 := rfl
    have hdrop : dropBytes? 1 ('+' :: cs) = some cs := dropBytes?_one (by decide) cs
    simp only [hhead, hdrop, Option.bind_some]
    exact sliceRun?_eq false cs
  have hunsigned : ∀ d ∈ (c :: cs).head?, d ≠ '+' ∧ d ≠ '-' := by
    rintro d ⟨⟩
    exact ⟨hplus, hminus⟩
  have hsplit : splitSign ([] ++ c :: cs) = (false, c :: cs) :=
    splitSign_append (by simp) fun _ => hunsigned
  rw [List.nil_append] at hsplit
  obtain ⟨b, hhead, h45, h43⟩ := head?_encoded hplus hminus cs
  simp only [hsplit, hhead]
  split
  · next heq => exact absurd (Option.some.inj heq) h45
  · next heq => exact absurd (Option.some.inj heq) h43
  · exact sliceRun?_eq false (c :: cs)

/-! ## What a text counts as -/

/-- The integer that a text begins with.  Every text has a head; it has no integer just when no
digit stands after the white space and the sign, and else the integer that the whole run of digits
writes, clamped once.  It is found by bytes as by characters.  It does not depend on what follows
the run, and an integer of 64 bits in decimal notation is read as itself. -/
theorem leading_integer_exact :
    (∀ s : String, (∃ blanks sign digits rest, Headed s blanks sign digits rest) ∧
      (∀ blanks sign digits rest, Headed s blanks sign digits rest →
        (leadingInt? s = none ↔ ∀ c ∈ (digits ++ rest).head?, c.isDigit = false) ∧
        (digits ≠ [] → leadingInt? s =
          some (clamp (Double.signed (sign = ['-']) (Nat.ofDigitChars 10 digits 0))))) ∧
      sliceInt? s = some (leadingInt? s)) ∧
    (∀ (s tail : String) (i : ℤ), leadingInt? s = some i →
      (∀ c ∈ tail.toList.head?, c.isDigit = false) → leadingInt? (s ++ tail) = some i) ∧
    ∀ i, minInt64 ≤ i → i ≤ maxInt64 → leadingInt? (toString i) = some i := by
  refine ⟨fun s => ⟨exists_headed s, fun blanks sign digits rest h => ?_, sliceInt?_eq s⟩,
    fun s tail i hi htail => ?_, fun i hlow hhigh => ?_⟩
  · rw [← h.digits_eq_nil_iff, h.leadingInt?_eq, decimalValue_eq]
    exact ⟨by simp, fun hne => if_neg hne⟩
  · obtain ⟨blanks, sign, digits, rest, h⟩ := exists_headed s
    have hne : digits ≠ [] := by
      intro hnil
      rw [h.leadingInt?_eq, if_pos hnil] at hi
      cases hi
    rw [(h.append hne htail).leadingInt?_eq, ← h.leadingInt?_eq, hi]
  · rw [leadingInt?_toString, clamp_eq_self hlow hhigh]

/-- Zeros before a digit count for nothing, and the digits of other scripts end the run. -/
example : leadingInt? "\u3000-00009223372036854775809\u0665.5" = some minInt64 := by
  decide +kernel

end TypedVars
