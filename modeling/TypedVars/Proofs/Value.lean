import TypedVars.Amount
import TypedVars.Proofs.Number.Notation
import TypedVars.Proofs.Text.Trim
import TypedVars.Text.Encoded

/-!
# The stored form of a value

A value is what its stored form is read as (`decode_encode`), whatever the value: the tag alone
decides the variant, a string follows its tag untouched, and the text of a number has no white space
that reading would take away.  The other way round, a text that is read as a value is the stored
form of that value, or else it is one of the many texts of a number (`encode_of_decode`).

The tag is the first two characters.  It might as well be the first two bytes
(`readChars_eq_readSlices`): a second byte inside of a character makes a text undecodable either
way.
-/

namespace TypedVars

/-! ## White space -/

lemma isBlank_of_isDigit {c : Char} (hc : c.isDigit = true) : isBlank c = false := by
  obtain ⟨hlow, hhigh⟩ := toNat_of_isDigit hc
  simp [isBlank, inSpans, blankSpans]
  omega

lemma Double.not_blank_of_mem_chars {x : Double} {c : Char} (hc : c ∈ x.chars) :
    isBlank c = false := by
  have hsign : ∀ negative, c ∈ signChars negative → isBlank c = false := by
    intro negative hmem
    cases negative with
    | true =>
      rw [List.mem_singleton.1 hmem]
      rfl
    | false => cases hmem
  cases x with
  | nan =>
    exact not_blank_of_all (by decide) hc
  | infinite negative =>
    rcases List.mem_append.1 hc with hc | hc
    · exact hsign negative hc
    · exact not_blank_of_all (by decide) hc
  | finite negative m s h =>
    rcases List.mem_append.1 hc with hc | hc
    · exact hsign negative hc
    · split at hc
      · rw [List.mem_singleton.1 hc]
        rfl
      · rcases (positional_cases _).2 c hc with hdigit | rfl
        · exact isBlank_of_isDigit hdigit
        · rfl

/-! ## The round trip -/

namespace Value

/-- The stored form of a number is read as that number. -/
lemma readChars_number (x : Double) : readChars ('n' :: ':' :: x.chars) = .value (.number x) := by
  have htrim := (trimmed_of_not_blank fun c (hc : c ∈ x.chars) => x.not_blank_of_mem_chars hc).trim_eq
  rw [readChars, htrim, Double.ofChars?_chars]

lemma toList_encode_number (x : Double) :
    (Value.number x).encode.toList = 'n' :: ':' :: x.chars := by
  simp [encode, Double.text]

/-- Every value is what its stored form is read as. -/
theorem decode_encode (v : Value) : decode v.encode = .value v := by
  cases v with
  | number x => rw [decode, toList_encode_number, readChars_number]
  | string s =>
    have hlist : (Value.string s).encode.toList = 's' :: ':' :: s.toList := by
      rw [encode, String.toList_append]
      rfl
    rw [decode, hlist, readChars, String.ofList_toList]
  | boolean b => cases b <;> rfl

/-- The stored form of an integer is its tag and its decimal digits. -/
lemma encode_ofInt {i : Int} (hi : i.natAbs ≤ 2 ^ 53) :
    (Value.number (.ofInt i)).encode = "n:" ++ toString i := by
  rw [encode, Double.text_ofInt hi]

/-! ## Canonical texts -/

/-- What is read as a value is its stored form already, unless it has the tag of a number. -/
lemma encode_of_decode {raw : String} {v : Value} (h : decode raw = .value v)
    (htag : ¬['n', ':'] <+: raw.toList) : v.encode = raw := by
  obtain ⟨cs, rfl⟩ : ∃ cs, raw = String.ofList cs := ⟨raw.toList, String.ofList_toList.symm⟩
  rw [decode] at h
  rw [String.toList_ofList] at h htag
  unfold readChars at h
  split at h
  · cases h
  · next body => exact absurd (List.prefix_append ['n', ':'] body) htag
  · next body =>
    cases h
    simp [encode, ← String.toList_inj]
  · cases h
    rfl
  · cases h
    rfl
  · cases h

/-- Stored forms and the values that they are read as.  A value is what its stored form is read as,
so values with one stored form are one value; to read a text and to store the value again gives a
text of that value, and the same text unless it has the tag of a number. -/
theorem stored_form_canonical :
    (∀ v : Value, decode v.encode = .value v) ∧
      (∀ v w : Value, v.encode = w.encode → v = w) ∧
      ∀ (raw : String) (v : Value), decode raw = .value v →
        decode v.encode = .value v ∧ (¬['n', ':'] <+: raw.toList → v.encode = raw) := by
  refine ⟨decode_encode, fun v w heq => ?_, fun raw v h => ⟨decode_encode v, encode_of_decode h⟩⟩
  have hread : Reading.value v = .value w := by rw [← decode_encode, heq, decode_encode]
  exact Reading.value.inj hread

/-! ## Tags by bytes -/

/-- What a tag and the body after it say. -/
def readTagged : List Char → List Char → Reading
  | ['n', ':'], body =>
    match Double.ofChars? (trim body) with
    | some x => .value (.number x)
    | none => .undecodable
  | ['s', ':'], body => .value (.string (String.ofList body))
  | ['b', ':'], ['1'] => .value (.boolean true)
  | ['b', ':'], ['0'] => .value (.boolean false)
  | _, _ => .undecodable

/-- What a text says whose tag stands in its first two bytes. -/
def readSlices (cs : List Char) : Reading :=
  if cs.isEmpty then .absent
  else
    match takeBytes? 2 cs, dropBytes? 2 cs with
    | some tag, some body => readTagged tag body
    | _, _ => .undecodable

lemma readChars_cons_cons (c d : Char) (body : List Char) :
    readChars (c :: d :: body) = readTagged [c, d] body := by
  unfold readChars
  split
  case h_1 heq => cases heq
  case h_6 =>
    unfold readTagged
    split <;> simp_all
  all_goals
    next heq =>
      cases heq
      rfl

/-- Every tag consists of two characters of one byte each. -/
lemma readChars_of_wide {c : Char} {rest : List Char}
    (h : c.utf8Size = 1 → ∀ d ∈ rest.head?, d.utf8Size ≠ 1) :
    readChars (c :: rest) = .undecodable := by
  unfold readChars
  split
  case h_1 heq => cases heq
  case h_6 => rfl
  all_goals
    next heq =>
      cases heq
      exact absurd rfl (h rfl ':' rfl)

/-- A text is read alike by its first two characters and by its first two bytes. -/
theorem readChars_eq_readSlices (cs : List Char) : readChars cs = readSlices cs := by
  rcases cs with _ | ⟨c, rest⟩
  · rfl
  have hpos := c.utf8Size_pos
  rcases (by omega : c.utf8Size = 1 ∨ c.utf8Size = 2 ∨ 2 < c.utf8Size) with hc | hc | hc
  · rcases rest with _ | ⟨d, rest⟩
    · rw [readChars_of_wide (by simp)]
      simp [readSlices, takeBytes?, hc]
    · have hpos := d.utf8Size_pos
      by_cases hd : d.utf8Size = 1
      · simp [readSlices, takeBytes?, dropBytes?, hc, hd, readChars_cons_cons]
      · have hwide : ¬d.utf8Size ≤ 1 := by omega
        rw [readChars_of_wide (by simp [hd])]
        simp [readSlices, takeBytes?, hc, hwide]
  · -- one character of two bytes is no tag
    rw [readChars_of_wide (by simp [hc])]
    simp [readSlices, takeBytes?, dropBytes?, hc, readTagged]
  · have hwide : ¬c.utf8Size ≤ 2 := by omega
    rw [readChars_of_wide (by omega)]
    simp [readSlices, takeBytes?, hwide]

end Value

end TypedVars
