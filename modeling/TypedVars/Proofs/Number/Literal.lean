import TypedVars.Proofs.Amount
import TypedVars.Proofs.Json.Number
import TypedVars.Proofs.Text.AnyCase

/-!
# The texts of numbers

The grammar of number texts, each with the double that it stands for (`IsLiteral`): at most one
sign, and then one of three words in any case, or a decimal numeral.  A numeral has digits with at
most one point, which may stand before the first digit or after the last one, and perhaps an
exponent with digits of its own.

The reader accepts exactly these texts and gives each its double (`Double.ofChars?_eq_some_iff`).
It takes a text apart from the left, so what is shown beside the rules is where each part ends: an
exponent begins with a letter, a fraction with the point, and none of the words with a digit, a
point or a sign.
-/

namespace TypedVars

/-- What may follow the whole part of a numeral, and the digits in it: nothing, or a point and any
number of digits. -/
inductive IsFraction : List Char → List Char → Prop where
  | none : IsFraction [] []
  | point {ds : List Char} (hds : ∀ c ∈ ds, c.isDigit = true) : IsFraction ('.' :: ds) ds

/-- The exponent of a numeral and its value: nothing, or the letter `e`, at most one sign, and
digits, of which there is at least one. -/
inductive IsExponent : List Char → ℤ → Prop where
  | none : IsExponent [] 0
  | some {mark : Char} {sign ds : List Char} (hmark : mark = 'e' ∨ mark = 'E')
    (hsign : sign ∈ [[], ['+'], ['-']]) (hds : DigitRun ds) :
    IsExponent (mark :: (sign ++ ds)) (Double.signed (sign = ['-']) (Nat.ofDigitChars 10 ds 0))

/-- The text of a number after its sign, and the double of that sign for which it stands. -/
inductive IsUnsigned (negative : Bool) : List Char → Double → Prop where
  | nan {word : List Char} (hword : InAnyCase "nan" word) : IsUnsigned negative word .nan
  | infinite {word : List Char} (hword : InAnyCase "inf" word ∨ InAnyCase "infinity" word) :
    IsUnsigned negative word (.infinite negative)
  | numeral {whole fraction digits exponent : List Char} {e : ℤ}
    (hwhole : ∀ c ∈ whole, c.isDigit = true) (hfraction : IsFraction fraction digits)
    (hsome : whole ++ digits ≠ []) (hexponent : IsExponent exponent e) :
    IsUnsigned negative (whole ++ (fraction ++ exponent))
      (.ofDecimal negative (Nat.ofDigitChars 10 (whole ++ digits) 0) (e - digits.length))

/-- The text of a number, and the double for which it stands. -/
inductive IsLiteral : List Char → Double → Prop where
  | signed {sign body : List Char} {x : Double} (hsign : sign ∈ [[], ['+'], ['-']])
    (hbody : IsUnsigned (sign = ['-']) body x) : IsLiteral (sign ++ body) x

variable {cs body tail fraction digits exponent : List Char} {negative : Bool} {e : ℤ} {x : Double}

/-! ## Where the parts begin -/

lemma IsExponent.head (h : IsExponent exponent e) {c : Char} (hc : c ∈ exponent.head?) :
    c = 'e' ∨ c = 'E' := by
  cases h with
  | none => cases hc
  | some hmark =>
    cases hc
    exact hmark

lemma IsFraction.head (hfraction : IsFraction fraction digits) (hexponent : IsExponent exponent e)
    {c : Char} (hc : c ∈ (fraction ++ exponent).head?) : c = '.' ∨ c = 'e' ∨ c = 'E' := by
  cases hfraction with
  | none => exact .inr (hexponent.head hc)
  | point =>
    cases hc
    exact .inl rfl

lemma head_of_numeral {whole : List Char} (hwhole : ∀ c ∈ whole, c.isDigit = true)
    (hfraction : IsFraction fraction digits) (hsome : whole ++ digits ≠ []) {c : Char}
    (hc : c ∈ (whole ++ (fraction ++ exponent)).head?) : c.isDigit = true ∨ c = '.' := by
  cases whole with
  | cons d ds =>
    cases hc
    exact .inl (hwhole _ List.mem_cons_self)
  | nil =>
    cases hfraction with
    | none => exact absurd rfl hsome
    | point =>
      cases hc
      exact .inr rfl

lemma InAnyCase.head {word : String} {l : Char} {ls : List Char} (hword : word.toList = l :: ls)
    (h : InAnyCase word cs) : ∃ c rest, cs = c :: rest ∧ (c = l ∨ c = l.toUpper) := by
  rw [InAnyCase, hword] at h
  cases h with
  | cons hc _ => exact ⟨_, _, rfl, hc⟩

lemma IsUnsigned.head (h : IsUnsigned negative body x) : ∀ c ∈ body.head?, c ≠ '+' ∧ c ≠ '-' := by
  intro c hc
  have hword : ∀ {word : String} {l : Char} {ls : List Char}, word.toList = l :: ls →
      InAnyCase word body → c = l ∨ c = l.toUpper := by
    intro word l ls hword hcase
    obtain ⟨c', rest, rfl, hfirst⟩ := hcase.head hword
    cases hc
    exact hfirst
  cases h with
  | nan hcase => rcases hword rfl hcase with rfl | rfl <;> decide
  | infinite hcase =>
    rcases hcase with hcase | hcase <;> rcases hword rfl hcase with rfl | rfl <;> decide
  | numeral hwhole hfraction hsome =>
    rcases head_of_numeral hwhole hfraction hsome hc with hdigit | rfl
    · exact Double.ne_sign_of_isDigit hdigit
    · decide

/-! ## Reading the parts -/

lemma readExponent?_eq_some_iff : readExponent? tail = some e ↔ IsExponent tail e := by
  constructor
  · intro h
    cases tail with
    | nil =>
      cases h
      exact .none
    | cons mark cs =>
      obtain ⟨sign, hsign, hsplit, hnegative⟩ := exists_splitSign cs
      rw [readExponent?] at h
      generalize splitSign cs = parts at hsplit hnegative h
      obtain ⟨negative, ds⟩ := parts
      obtain ⟨hmark, h⟩ := Option.ite_none_right_eq_some.1 h
      obtain ⟨hdigits, h⟩ := Option.ite_none_left_eq_some.1 h
      simp only [not_or, not_not, List.isEmpty_iff, List.all_eq_true] at hdigits
      cases h
      subst hsplit hnegative
      rw [decimalValue_eq]
      exact .some hmark hsign hdigits
  · rintro (_ | ⟨hmark, hsign, hne, hds⟩)
    · rfl
    · next mark sign ds =>
      have hhead : sign = [] → ∀ c ∈ ds.head?, c ≠ '+' ∧ c ≠ '-' := fun _ c hc =>
        Double.ne_sign_of_isDigit (hds c (List.mem_of_mem_head? hc))
      have hdigits : ¬(ds.isEmpty = true ∨ ¬ds.all Char.isDigit = true) := by
        simpa [hne] using hds
      rw [readExponent?, if_pos hmark, splitSign_append hsign hhead]
      simp only [hdigits, if_false, decimalValue_eq]
      rfl

namespace Double

/-- Digits with a fraction and what is read as an exponent make a numeral. -/
lemma isUnsigned_of_parts {whole : List Char} (hwhole : ∀ c ∈ whole, c.isDigit = true)
    (hfraction : IsFraction fraction digits)
    (h : (if whole.isEmpty = true ∧ digits.isEmpty = true then none
      else (readExponent? tail).map fun e =>
        ofDecimal negative (decimalValue (whole ++ digits)) (e - digits.length)) = some x) :
    IsUnsigned negative (whole ++ (fraction ++ tail)) x := by
  obtain ⟨hsome, h⟩ := Option.ite_none_left_eq_some.1 h
  obtain ⟨e, hread, rfl⟩ := Option.map_eq_some_iff.1 h
  rw [decimalValue_eq]
  refine .numeral hwhole hfraction ?_ (readExponent?_eq_some_iff.1 hread)
  simpa using hsome

lemma isUnsigned_of_ofNumeral? (h : ofNumeral? negative cs = some x) :
    IsUnsigned negative cs x := by
  have hcs : cs.takeWhile Char.isDigit ++ cs.dropWhile Char.isDigit = cs :=
    List.takeWhile_append_dropWhile
  have hwhole : ∀ c ∈ cs.takeWhile Char.isDigit, c.isDigit = true := fun c hc =>
    List.mem_takeWhile_imp hc
  unfold ofNumeral? at h
  rw [← hcs]
  generalize cs.takeWhile Char.isDigit = whole at hwhole h ⊢
  generalize cs.dropWhile Char.isDigit = rest at h ⊢
  dsimp only at h
  split at h
  · next r =>
    have hdigits : ∀ c ∈ r.takeWhile Char.isDigit, c.isDigit = true := fun c hc =>
      List.mem_takeWhile_imp hc
    have hparts := isUnsigned_of_parts hwhole (.point hdigits) h
    rwa [List.cons_append, List.takeWhile_append_dropWhile] at hparts
  · exact isUnsigned_of_parts hwhole .none h

lemma ofNumeral?_parts {whole : List Char} (hwhole : ∀ c ∈ whole, c.isDigit = true)
    (hfraction : IsFraction fraction digits) (hsome : whole ++ digits ≠ [])
    (hexponent : IsExponent exponent e) :
    ofNumeral? negative (whole ++ (fraction ++ exponent)) =
      some (ofDecimal negative (Nat.ofDigitChars 10 (whole ++ digits) 0) (e - digits.length)) := by
  have hexponent_head : ∀ c ∈ exponent.head?, c.isDigit = false := by
    intro c hc
    rcases hexponent.head hc with rfl | rfl <;> decide
  have hhead : ∀ c ∈ (fraction ++ exponent).head?, c.isDigit = false := by
    intro c hc
    rcases hfraction.head hexponent hc with rfl | rfl | rfl <;> decide
  have hread := readExponent?_eq_some_iff.2 hexponent
  rw [ofNumeral?, takeWhile_append_of_head hwhole hhead, dropWhile_append_of_head hwhole hhead]
  cases hfraction with
  | none =>
    have hparts : whole ≠ [] := by simpa using hsome
    rw [List.nil_append]
    dsimp only
    split
    · next r => exact absurd (hexponent.head (c := '.') rfl) (by decide)
    · simp [hparts, hread, decimalValue_eq]
  | point hdigits =>
    have hparts : whole = [] → digits ≠ [] := by simpa using hsome
    have htake := takeWhile_append_of_head hdigits hexponent_head
    have hdrop := dropWhile_append_of_head hdigits hexponent_head
    simpa [htake, hdrop, hread, decimalValue_eq] using hparts

/-! ## Reading the whole text -/

/-- The three words are found by the lower case of ASCII. -/
lemma lower_eq_nan_iff : String.ofList (cs.map Char.toLower) = "nan" ↔ InAnyCase "nan" cs :=
  ofList_map_toLower_eq_iff rfl

lemma lower_eq_infinity_iff : (String.ofList (cs.map Char.toLower) = "inf" ∨
    String.ofList (cs.map Char.toLower) = "infinity") ↔
      InAnyCase "inf" cs ∨ InAnyCase "infinity" cs :=
  or_congr (ofList_map_toLower_eq_iff rfl) (ofList_map_toLower_eq_iff rfl)

/-- No word begins as a numeral does. -/
lemma not_inAnyCase_of_head {word : String} {l : Char} {ls : List Char}
    (hword : word.toList = l :: ls) (hl : ∀ c, c = l ∨ c = l.toUpper → c.isDigit = false ∧ c ≠ '.')
    (hhead : ∀ c ∈ cs.head?, c.isDigit = true ∨ c = '.') : ¬InAnyCase word cs := by
  intro h
  obtain ⟨c, rest, rfl, hc⟩ := h.head hword
  obtain ⟨hdigit, hpoint⟩ := hl c hc
  rcases hhead c rfl with h | h
  · rw [hdigit] at h
    cases h
  · exact hpoint h

/-- The reader accepts the texts of numbers and no others, and gives each its double. -/
theorem ofChars?_eq_some_iff : ofChars? cs = some x ↔ IsLiteral cs x := by
  constructor
  · intro h
    obtain ⟨sign, hsign, hsplit, hnegative⟩ := exists_splitSign cs
    unfold ofChars? at h
    generalize splitSign cs = parts at hsplit hnegative h
    obtain ⟨negative, body⟩ := parts
    subst hsplit hnegative
    refine .signed hsign ?_
    dsimp only at h
    split at h
    · next hnan =>
      cases h
      exact .nan (lower_eq_nan_iff.1 hnan)
    · split at h
      · next hinfinite =>
        cases h
        exact .infinite (lower_eq_infinity_iff.1 hinfinite)
      · exact isUnsigned_of_ofNumeral? h
  · rintro ⟨hsign, hbody⟩
    rw [ofChars?, splitSign_append hsign fun _ => hbody.head]
    dsimp only
    cases hbody with
    | nan hnan => rw [if_pos (lower_eq_nan_iff.2 hnan)]
    | infinite hinfinite =>
      have hword := lower_eq_infinity_iff.2 hinfinite
      rw [if_neg, if_pos hword]
      rcases hword with hword | hword <;> rw [hword] <;> decide
    | @numeral whole fraction digits exponent e hwhole hfraction hsome hexponent =>
      have hhead : ∀ c ∈ (whole ++ (fraction ++ exponent)).head?, c.isDigit = true ∨ c = '.' :=
        fun c hc => head_of_numeral hwhole hfraction hsome hc
      have hn : ∀ c, c = 'n' ∨ c = 'n'.toUpper → c.isDigit = false ∧ c ≠ '.' := by
        rintro c (rfl | rfl) <;> decide
      have hi : ∀ c, c = 'i' ∨ c = 'i'.toUpper → c.isDigit = false ∧ c ≠ '.' := by
        rintro c (rfl | rfl) <;> decide
      have hnan : ¬InAnyCase "nan" _ := not_inAnyCase_of_head rfl hn hhead
      have hinf : ¬InAnyCase "inf" _ := not_inAnyCase_of_head rfl hi hhead
      have hinfinity : ¬InAnyCase "infinity" _ := not_inAnyCase_of_head rfl hi hhead
      rw [if_neg (mt lower_eq_nan_iff.1 hnan),
        if_neg (mt lower_eq_infinity_iff.1 (not_or.2 ⟨hinf, hinfinity⟩)),
        ofNumeral?_parts hwhole hfraction hsome hexponent]

end Double

end TypedVars
