import TypedVars.Proofs.Json.RoundTrip
import TypedVars.Proofs.Number.Notation

/-!
# Numbers in JSON text

A finite double is written to JSON with the digits of a decimal that rounds to it, as a numeral
with a fraction, with an exponent, or with both.  Such a numeral is read back as its parts
(`Json.readNumber?_chars`), its digits and its exponent name the decimal that was written
(`Decimal.exists_numeral_positional`, `Decimal.exists_numeral_scientific`), and a decimal that
rounds to a double is that double.  So every finite double is read back from its text
(`Double.readsBack_double`).  An integer is written with its digits alone, and the same reader
keeps it exact (`JsonNumber.readsBack_int`).
-/

namespace TypedVars

/-! ## Numerals -/

/-- The parts of a numeral. -/
structure Numeral where
  whole : List Char
  fraction : Option (List Char) := none
  /-- Whether the exponent is negative, and its digits. -/
  exponent : Option (Bool × List Char) := none

/-- A run of digits that is not empty. -/
def DigitRun (ds : List Char) : Prop := ds ≠ [] ∧ ∀ c ∈ ds, c.isDigit = true

namespace Numeral

/-- A fraction in the text of a numeral. -/
def fractionChars : Option (List Char) → List Char
  | some fs => '.' :: fs
  | none => []

/-- An exponent in the text of a numeral. -/
def exponentChars : Option (Bool × List Char) → List Char
  | some (negative, ds) => 'e' :: (if negative then '-' else '+') :: ds
  | none => []

/-- The text of a numeral. -/
def chars (n : Numeral) : List Char :=
  n.whole ++ (fractionChars n.fraction ++ exponentChars n.exponent)

/-- The value of an exponent. -/
def exponentValue (e : Bool × List Char) : Int :=
  if e.1 then -(decimalValue e.2 : Int) else decimalValue e.2

/-- The parts of a numeral are runs of digits, and it begins with no zero that could be left out. -/
structure WellFormed (n : Numeral) : Prop where
  whole : DigitRun n.whole
  head : n.whole.head? = some '0' → n.whole.length = 1
  fraction : ∀ fs ∈ n.fraction, DigitRun fs
  exponent : ∀ e ∈ n.exponent, DigitRun e.2

end Numeral

namespace Json

open Numeral

variable {rest : List Char}

lemma Delimited.of_mem (h : Delimited rest) {c : Char} (hc : c ∈ rest.head?) :
    c.isDigit = false ∧ c ≠ '.' ∧ c ≠ 'e' ∧ c ≠ 'E' := by
  rcases h c hc with rfl | rfl | rfl <;> decide

lemma readNumberExponent?_chars {exponent : Option (Bool × List Char)}
    (hexponent : ∀ e ∈ exponent, DigitRun e.2) (hrest : Delimited rest) :
    readNumberExponent? (exponentChars exponent ++ rest) =
      some (exponent.map exponentValue, rest) := by
  cases exponent with
  | none =>
    cases rest with
    | nil => rfl
    | cons c cs =>
      obtain ⟨-, -, he, hE⟩ := hrest.of_mem (c := c) rfl
      simp [exponentChars, readNumberExponent?, he, hE]
  | some e =>
    obtain ⟨negative, ds⟩ := e
    obtain ⟨hne, hds⟩ := hexponent _ rfl
    have htake : (ds ++ rest).takeWhile Char.isDigit = ds :=
      takeWhile_append_of_head hds fun c hc => (hrest.of_mem hc).1
    have hdrop : (ds ++ rest).dropWhile Char.isDigit = rest :=
      dropWhile_append_of_head hds fun c hc => (hrest.of_mem hc).1
    cases negative <;>
      simp [exponentChars, readNumberExponent?, splitSign, htake, hdrop, hne, exponentValue]

lemma readFraction?_chars {fraction : Option (List Char)} (hfraction : ∀ fs ∈ fraction, DigitRun fs)
    (hrest : ∀ c ∈ rest.head?, c.isDigit = false ∧ c ≠ '.') :
    readFraction? (fractionChars fraction ++ rest) = some (fraction, rest) := by
  cases fraction with
  | none =>
    rw [fractionChars, List.nil_append]
    unfold readFraction?
    split
    · next cs => exact absurd rfl (hrest '.' rfl).2
    · rfl
  | some fs =>
    obtain ⟨hne, hfs⟩ := hfraction _ rfl
    have htake : (fs ++ rest).takeWhile Char.isDigit = fs :=
      takeWhile_append_of_head hfs fun c hc => (hrest c hc).1
    have hdrop : (fs ++ rest).dropWhile Char.isDigit = rest :=
      dropWhile_append_of_head hfs fun c hc => (hrest c hc).1
    simp [fractionChars, readFraction?, htake, hdrop, hne]

/-- A numeral is read as its parts. -/
lemma readNumber?_chars {n : Numeral} (h : n.WellFormed) (negative : Bool)
    (hrest : Delimited rest) :
    readNumber? (Double.signChars negative ++ n.chars ++ rest) =
      some (ofNumeral negative n.whole n.fraction (n.exponent.map exponentValue), rest) := by
  obtain ⟨whole, fraction, exponent⟩ := n
  obtain ⟨⟨hne, hwhole⟩, hhead, hfraction, hexponent⟩ := h
  have hexponent_head : ∀ c ∈ (exponentChars exponent ++ rest).head?,
      c.isDigit = false ∧ c ≠ '.' := by
    intro c hc
    cases exponent with
    | none => exact ⟨(hrest.of_mem hc).1, (hrest.of_mem hc).2.1⟩
    | some e =>
      cases hc
      decide
  have hfraction_head : ∀ c ∈ (fractionChars fraction ++ (exponentChars exponent ++ rest)).head?,
      c.isDigit = false := by
    intro c hc
    cases fraction with
    | none => exact (hexponent_head c hc).1
    | some fs =>
      cases hc
      rfl
  have htake : (whole ++ (fractionChars fraction ++ (exponentChars exponent ++ rest))).takeWhile
      Char.isDigit = whole := takeWhile_append_of_head hwhole hfraction_head
  have hdrop : (whole ++ (fractionChars fraction ++ (exponentChars exponent ++ rest))).dropWhile
      Char.isDigit = fractionChars fraction ++ (exponentChars exponent ++ rest) :=
    dropWhile_append_of_head hwhole hfraction_head
  -- the reader's match on a sign falls through to the digits
  have hplain : ∀ cs, whole ++ (fractionChars fraction ++ (exponentChars exponent ++ rest)) =
      '-' :: cs → False := by
    intro cs heq
    rw [heq, List.takeWhile_cons_of_neg (by decide)] at htake
    exact hne htake.symm
  have hzero : ¬(whole = [] ∨ whole.head? = some '0' ∧ whole.length ≠ 1) :=
    fun h => h.elim hne fun h => h.2 (hhead h.1)
  have hread := readFraction?_chars hfraction hexponent_head
  have hread' := readNumberExponent?_chars hexponent hrest
  cases negative with
  | false =>
    simp [readNumber?, Double.signChars, Numeral.chars, htake, hdrop, hzero, hread, hread']
  | true =>
    simp [readNumber?, Double.signChars, Numeral.chars, htake, hdrop, hzero, hread, hread']

end Json

/-! ## The decimals of numerals -/

namespace Numeral

/-- A numeral says a decimal, with some more zeros at the end. -/
def Says (n : Numeral) (d : Decimal) : Prop :=
  ∃ k : Nat, decimalValue (n.whole ++ n.fraction.getD []) = d.digits * 10 ^ k ∧
    (n.exponent.map exponentValue).getD 0 - (n.fraction.getD []).length = d.exponent - k

end Numeral

lemma head?_toDigits {n : Nat} (hn : 0 < n) : (Nat.toDigits 10 n).head? ≠ some '0' := by
  induction n using Nat.strongRecOn with
  | ind n ih =>
    rcases Nat.lt_or_ge n 10 with hlt | hge
    · have hdigit : ∀ n < 10, 0 < n → Nat.digitChar n ≠ '0' := by decide
      rw [Nat.toDigits_of_lt_base hlt, List.head?_cons]
      exact fun heq => hdigit n hlt hn (Option.some.inj heq)
    · have hquotient : 0 < n / 10 := by omega
      have hstep := Nat.toDigits_append_toDigits (b := 10) (d := n % 10) (by decide) hquotient
        (by omega)
      rw [Nat.div_add_mod] at hstep
      rw [← hstep, List.head?_append_of_ne_nil _ Nat.toDigits_ne_nil]
      exact ih _ (by omega) hquotient

lemma DigitRun.append_zeros {ds : List Char} (h : DigitRun ds) (k : Nat) :
    DigitRun (ds ++ List.replicate k '0') := by
  refine ⟨by simp [h.1], fun c hc => ?_⟩
  rcases List.mem_append.1 hc with hc | hc
  · exact h.2 c hc
  · exact isDigit_of_mem_zeros hc

namespace Decimal

variable {d : Decimal}

lemma digitRun_chars (d : Decimal) : DigitRun d.chars :=
  ⟨Nat.toDigits_ne_nil, fun _ => isDigit_of_mem_chars⟩

lemma decimalValue_chars (d : Decimal) : decimalValue d.chars = d.digits :=
  decimalValue_toDigits d.digits

lemma exists_numeral_positional (hd : 0 < d.digits) : ∃ n : Numeral, n.WellFormed ∧
    d.positional ['.', '0'] = n.chars ∧ n.fraction.isSome = true ∧ n.Says d := by
  obtain ⟨hne, hdigit⟩ := d.digitRun_chars
  have hvalue := d.decimalValue_chars
  have hhead : d.chars.head? ≠ some '0' := head?_toDigits hd
  unfold positional
  dsimp only
  split
  · refine ⟨⟨d.chars ++ List.replicate d.exponent.toNat '0', some ['0'], none⟩, ?_, ?_, rfl,
      d.exponent.toNat + 1, ?_, ?_⟩
    · refine ⟨d.digitRun_chars.append_zeros _, fun h => ?_, ?_, by simp⟩
      · rw [List.head?_append_of_ne_nil _ hne] at h
        exact absurd h hhead
      · rintro fs ⟨⟩
        exact ⟨by simp, by simp⟩
    · simp [Numeral.chars, Numeral.fractionChars, Numeral.exponentChars]
    · rw [Option.getD_some, List.append_assoc]
      rw [← List.replicate_succ', decimalValue_append_zeros, hvalue]
    · simp
      omega
  · next hexp =>
    generalize hplaces : (-d.exponent).toNat = places
    split
    · next hshort =>
      refine ⟨⟨d.chars.take (d.chars.length - places),
        some (d.chars.drop (d.chars.length - places)), none⟩, ?_, ?_, rfl, 0, ?_, ?_⟩
      · refine ⟨⟨?_, fun c hc => hdigit c (List.mem_of_mem_take hc)⟩, fun h => ?_, ?_, by simp⟩
        · intro hnil
          have hlen := congrArg List.length hnil
          rw [List.length_take, List.length_nil] at hlen
          omega
        · rw [List.head?_take, if_neg (by omega)] at h
          exact absurd h hhead
        · rintro fs ⟨⟩
          refine ⟨fun hnil => ?_, fun c hc => hdigit c (List.mem_of_mem_drop hc)⟩
          have hlen := congrArg List.length hnil
          rw [List.length_drop, List.length_nil] at hlen
          omega
      · simp [Numeral.chars, Numeral.fractionChars, Numeral.exponentChars]
      · rw [Option.getD_some, List.take_append_drop, hvalue, Nat.pow_zero, Nat.mul_one]
      · simp
        omega
    · next hlong =>
      refine ⟨⟨['0'], some (List.replicate (places - d.chars.length) '0' ++ d.chars), none⟩, ?_, ?_,
        rfl, 0, ?_, ?_⟩
      · refine ⟨⟨by simp, by simp⟩, fun _ => rfl, ?_, by simp⟩
        rintro fs ⟨⟩
        refine ⟨by simp [hne], fun c hc => ?_⟩
        rcases List.mem_append.1 hc with hc | hc
        · exact isDigit_of_mem_zeros hc
        · exact hdigit c hc
      · simp [Numeral.chars, Numeral.fractionChars, Numeral.exponentChars]
      · change decimalValue (List.replicate (places - d.chars.length + 1) '0' ++ d.chars) = _
        rw [decimalValue_zeros_append, hvalue, Nat.pow_zero, Nat.mul_one]
      · simp
        omega

lemma exists_numeral_scientific (hd : 0 < d.digits) : ∃ n : Numeral, n.WellFormed ∧
    d.scientific = n.chars ∧ n.exponent.isSome = true ∧ n.Says d := by
  obtain ⟨hne, hdigit⟩ := d.digitRun_chars
  have hvalue := d.decimalValue_chars
  have hhead : d.chars.head? ≠ some '0' := head?_toDigits hd
  have hexponent : Numeral.exponentValue (decide (d.leading < 0), Nat.toDigits 10 d.leading.natAbs)
      = d.leading := by
    simp only [Numeral.exponentValue, decimalValue_toDigits, decide_eq_true_eq]
    split <;> omega
  obtain ⟨c, cs, hchars⟩ := List.exists_cons_of_ne_nil hne
  have hleading : d.leading = d.exponent + cs.length := by
    rw [leading, hchars, List.length_cons]
    omega
  rw [hchars] at hdigit hvalue
  have hrun : DigitRun (Nat.toDigits 10 d.leading.natAbs) :=
    ⟨Nat.toDigits_ne_nil, fun _ => Nat.isDigit_of_mem_toDigits (by decide) (by decide)⟩
  have hwhole : DigitRun [c] :=
    ⟨by simp, List.forall_mem_singleton.2 (hdigit c List.mem_cons_self)⟩
  refine ⟨⟨[c], if cs.isEmpty then none else some cs,
    some (decide (d.leading < 0), Nat.toDigits 10 d.leading.natAbs)⟩,
    ⟨hwhole, fun _ => rfl, fun fs hfs => ?_, by rintro e ⟨⟩; exact hrun⟩, ?_, rfl, 0, ?_, ?_⟩
  · obtain ⟨hmore, hsame⟩ := Option.ite_none_left_eq_some.1 hfs
    cases hsame
    exact ⟨fun hnil => hmore (by rw [hnil]; rfl), fun c' hc' => hdigit c' (.tail c hc')⟩
  · rw [scientific, hchars]
    cases cs <;> simp [Numeral.chars, Numeral.fractionChars, Numeral.exponentChars]
  · rw [← hvalue, Nat.pow_zero, Nat.mul_one]
    cases cs <;> rfl
  · rw [Option.map_some, hexponent, Option.getD_some, hleading]
    cases cs <;> simp

end Decimal

/-! ## Doubles -/

namespace Double

variable {m s : Nat}

lemma Reach.Covers.congr {r : Reach} {num den num' den' : Nat} (h : r.Covers num den)
    (hden : 0 < den) (hden' : 0 < den') (heq : num * den' = num' * den) : r.Covers num' den' := by
  have hcross : 4 * (num * unitsPerOne) * den' = 4 * (num' * unitsPerOne) * den := by
    linear_combination (4 * unitsPerOne) * heq
  have hlow : ∀ n : Nat, n * den * den' = n * den' * den := fun n => Nat.mul_right_comm ..
  have hle : ∀ n : Nat, n * den ≤ 4 * (num * unitsPerOne) ↔ n * den' ≤ 4 * (num' * unitsPerOne) :=
    fun n => by rw [← Nat.mul_le_mul_right_iff hden', hlow, hcross, Nat.mul_le_mul_right_iff hden]
  have hge : ∀ n : Nat, 4 * (num * unitsPerOne) ≤ n * den ↔ 4 * (num' * unitsPerOne) ≤ n * den' :=
    fun n => by rw [← Nat.mul_le_mul_right_iff hden', hlow, hcross, Nat.mul_le_mul_right_iff hden]
  unfold Covers at h ⊢
  simpa only [← Nat.not_le, hle, hge] using h

/-- A decimal stays in an interval when zeros are put at its end. -/
lemma Reach.Covers.append_zeros {r : Reach} {digits : Nat} {exponent : Int}
    (h : r.Covers (digits * (powerOfTen exponent).1) (powerOfTen exponent).2) (k : Nat) :
    r.Covers (digits * 10 ^ k * (powerOfTen (exponent - k)).1) (powerOfTen (exponent - k)).2 := by
  refine h.congr (powerOfTen_pos _) (powerOfTen_pos _) ?_
  rw [powerOfTen_eq, powerOfTen_eq]
  dsimp only
  rw [Nat.mul_assoc, Nat.mul_assoc, Nat.mul_assoc, ← Nat.pow_add, ← Nat.pow_add, ← Nat.pow_add]
  congr 2
  omega

/-- A numeral that says a decimal in the interval of a positive double is read as that double. -/
lemma ofNumeral_of_covers {n : Numeral} {d : Decimal} (h : Canonical m s) (hm : 0 < m)
    (hcovers : (reach m s).Covers (d.digits * (powerOfTen d.exponent).1) (powerOfTen d.exponent).2)
    (hnames : n.Says d) (hdouble : (n.fraction.isSome || n.exponent.isSome) = true)
    (negative : Bool) :
    Json.ofNumeral negative n.whole n.fraction (n.exponent.map Numeral.exponentValue) =
      .double (.finite negative m s h) := by
  obtain ⟨k, hdigits, hexponent⟩ := hnames
  simp only [Json.ofNumeral, Option.isSome_map, hdouble, if_true, hdigits, hexponent]
  rw [ofDecimal_of_covers h hm (hcovers.append_zeros k)]

/-- Every finite double is read back from its text. -/
theorem readsBack_double {x : Double} (hx : x.isFinite = true) :
    (JsonNumber.double x).ReadsBack := by
  cases x with
  | nan | infinite negative => cases hx
  | finite negative m s h =>
    intro rest hrest
    simp only [Json.numberChars, jsonChars?, Option.getD_some]
    split
    · next hzero =>
      subst hzero
      obtain rfl : s = 0 := h.normal.resolve_left (by decide)
      have hrun : DigitRun ['0'] := ⟨by simp, by simp⟩
      have hwell : (⟨['0'], some ['0'], none⟩ : Numeral).WellFormed :=
        ⟨hrun, fun _ => rfl, by rintro fs ⟨⟩; exact hrun, by simp⟩
      exact Json.readNumber?_chars hwell negative hrest
    · next hne =>
      have hm : 0 < m := Nat.pos_of_ne_zero hne
      have hcovers := shortest_covers .even hm (s := s)
      have hdigits : 0 < (shortest .even m s).digits := by
        have hrange := (hcovers.range h hm (powerOfTen_pos _)).2
        exact Nat.pos_of_mul_pos_right (Nat.pos_of_mul_pos_left (Nat.zero_lt_of_lt hrange))
      have hread : ∀ n : Numeral, n.WellFormed → (n.fraction.isSome || n.exponent.isSome) = true →
          n.Says (shortest .even m s) → Json.readNumber? (signChars negative ++ n.chars ++ rest) =
            some (.double (.finite negative m s h), rest) := by
        intro n hwell hdouble hnames
        rw [Json.readNumber?_chars hwell negative hrest,
          ofNumeral_of_covers h hm hcovers hnames hdouble]
      split
      · obtain ⟨n, hwell, hchars, hfraction, hnames⟩ := Decimal.exists_numeral_positional hdigits
        rw [hchars]
        exact hread n hwell (by rw [hfraction]; rfl) hnames
      · obtain ⟨n, hwell, hchars, hexponent, hnames⟩ := Decimal.exists_numeral_scientific hdigits
        rw [hchars]
        exact hread n hwell (by rw [hexponent, Bool.or_true]) hnames

end Double

theorem JsonNumber.readsBack_int {i : Int} (hi : holdsInt i = true) :
    (int i).ReadsBack := by
  intro rest hrest
  have hwell : (⟨Nat.toDigits 10 i.natAbs, none, none⟩ : Numeral).WellFormed := by
    refine ⟨⟨Nat.toDigits_ne_nil, fun _ => Nat.isDigit_of_mem_toDigits (by decide) (by decide)⟩,
      fun hhead => ?_, by simp, by simp⟩
    rcases Nat.eq_zero_or_pos i.natAbs with hzero | hpos
    · rw [hzero]
      rfl
    · exact absurd hhead (head?_toDigits hpos)
  have hchars : Json.numberChars (.int i) = Double.signChars (i < 0) ++
      (⟨Nat.toDigits 10 i.natAbs, none, none⟩ : Numeral).chars := by
    simp [Numeral.chars, Numeral.fractionChars, Numeral.exponentChars, Json.numberChars,
      Json.intChars, Double.signChars]
  have hvalue : (if decide (i < 0) then -(i.natAbs : Int) else i.natAbs) = i := by
    simp only [decide_eq_true_eq]
    split <;> omega
  have hnozero : (decide (i < 0) && i.natAbs == 0) = false := by
    rw [Bool.and_eq_false_iff, decide_eq_false_iff_not, beq_eq_false_iff_ne]
    omega
  rw [hchars, Json.readNumber?_chars hwell (decide (i < 0)) hrest]
  simp only [Json.ofNumeral, decimalValue_toDigits, Option.isSome_none, Option.map_none,
    Bool.or_self, hnozero, hvalue, hi, Bool.false_eq_true, if_false, if_true]

end TypedVars
