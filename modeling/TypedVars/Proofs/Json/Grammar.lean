import Mathlib
import TypedVars.Proofs.Json.RoundTrip

/-!
# The grammar of strings and of objects

A form of the grammar relates a text to what it says and to the rest of the text behind it.  Strings
have one (`Json.StringText`), with every escape that there is; objects have one for every form of
their members (`Json.ObjectText`), so objects of objects of strings do too.

The reader follows the grammar (`Json.Reads`): what it takes is a text of the form, and it takes
every text of the form, with as many steps as the text has characters.  This is so of strings
(`Json.reads_string`) and is handed on from the members to the object (`Json.Reads.object`).  In
the end the texts that are read as a value of a form are those of the form with white space around
(`Json.Reads.parse?_iff`).

The grammar by which JSON is defined has more strings, since it does not ask surrogates to come in
pairs (`Json.CodedText`).  The reader takes those of them that it can give characters to
(`Json.exists_readString?_iff`).
-/

namespace TypedVars

namespace Json

variable {cs cs' rest : List Char} {c : Char} {n fuel : Nat}

/-! ## White space -/

/-- White space, and the rest of the text after it. -/
def Spaced (cs rest : List Char) : Prop :=
  ∃ space, cs = space ++ rest ∧ ∀ c ∈ space, isSpace c = true

lemma Spaced.refl (cs : List Char) : Spaced cs cs := ⟨[], rfl, fun _ hc => nomatch hc⟩

lemma spaced_skip (cs : List Char) : Spaced cs (skip cs) :=
  ⟨cs.takeWhile isSpace, List.takeWhile_append_dropWhile.symm, fun _ hc => List.mem_takeWhile_imp hc⟩

lemma Spaced.skip_eq (h : Spaced cs rest) : skip cs = skip rest := by
  obtain ⟨space, rfl, hspace⟩ := h
  exact List.dropWhile_append_of_pos hspace

lemma spaced_of_skip (h : skip cs = rest) : Spaced cs rest := h ▸ spaced_skip cs

/-- White space before a character that is none is all there is to skip. -/
lemma Spaced.skip_eq_cons (h : Spaced cs (c :: rest)) (hc : isSpace c = false) :
    skip cs = c :: rest :=
  h.skip_eq.trans (skip_cons hc rest)

lemma Spaced.length_le (h : Spaced cs rest) : rest.length ≤ cs.length := by
  obtain ⟨space, rfl, -⟩ := h
  rw [List.length_append]
  exact Nat.le_add_left _ _

/-! ## Strings -/

/-- A hexadecimal digit, in either case, and its value. -/
def IsHexDigit (c : Char) (n : Nat) : Prop :=
  n < 16 ∧ (c = Nat.digitChar n ∨ c = (Nat.digitChar n).toUpper)

instance (c : Char) (n : Nat) : Decidable (IsHexDigit c n) := inferInstanceAs (Decidable (_ ∧ _))

/-- A number in four hexadecimal digits after `\u`. -/
inductive UnitText : List Char → Nat → List Char → Prop where
  | digits {a b c d : Char} {i j k l : Nat} (ha : IsHexDigit a i) (hb : IsHexDigit b j)
    (hc : IsHexDigit c k) (hd : IsHexDigit d l) (rest : List Char) :
    UnitText ('\\' :: 'u' :: a :: b :: c :: d :: rest) (i * 4096 + j * 256 + k * 16 + l) rest

/-- The letters of the short escapes and the characters that they stand for. -/
def shortEscapes : List (Char × Char) :=
  [('"', '"'), ('\\', '\\'), ('/', '/'), ('b', '\x08'), ('f', '\x0c'), ('n', '\n'), ('r', '\r'),
    ('t', '\t')]

/-- One character of a string: as it is, escaped by a letter, by its number, or by the two numbers
of its pair of surrogates.  No character has the number of a surrogate, so there is nothing that one
surrogate alone stands for. -/
inductive CharText : List Char → Char → List Char → Prop where
  | plain {c : Char} (hcontrol : 0x20 ≤ c.toNat) (hquote : c ≠ '"') (hslash : c ≠ '\\')
    (rest : List Char) : CharText (c :: rest) c rest
  | short {e c : Char} (he : (e, c) ∈ shortEscapes) (rest : List Char) :
    CharText ('\\' :: e :: rest) c rest
  | unit {cs rest : List Char} {c : Char} (h : UnitText cs c.toNat rest) : CharText cs c rest
  | pair {cs cs' rest : List Char} {c : Char} {high low : Nat} (hhigh : UnitText cs high cs')
    (hlow : UnitText cs' low rest) (hge : 0xD800 ≤ high) (hlt : high < 0xDC00)
    (hge' : 0xDC00 ≤ low) (hlt' : low < 0xE000)
    (hc : c.toNat = 0x10000 + (high - 0xD800) * 0x400 + (low - 0xDC00)) : CharText cs c rest

/-- The characters of a string up to its closing quote. -/
inductive CharsText : List Char → List Char → List Char → Prop where
  | done (rest : List Char) : CharsText ('"' :: rest) [] rest
  | more {cs cs' rest s : List Char} {c : Char} (hc : CharText cs c cs')
    (hs : CharsText cs' s rest) : CharsText cs (c :: s) rest

/-- A string between its quotes. -/
inductive StringText : List Char → String → List Char → Prop where
  | quoted {cs rest s : List Char} (h : CharsText cs s rest) :
    StringText ('"' :: cs) (String.ofList s) rest

lemma UnitText.shorter (h : UnitText cs n rest) : rest.length < cs.length := by
  cases h
  simp only [List.length_cons]
  omega

lemma CharText.shorter (h : CharText cs c rest) : rest.length < cs.length := by
  cases h with
  | plain => exact Nat.lt_succ_self _
  | short => simp only [List.length_cons]; omega
  | unit h => exact h.shorter
  | pair hhigh hlow => exact hlow.shorter.trans hhigh.shorter

lemma CharsText.shorter {s : List Char} (h : CharsText cs s rest) : rest.length < cs.length := by
  induction h with
  | done => exact Nat.lt_succ_self _
  | more hc _ ih => exact ih.trans hc.shorter

lemma StringText.shorter {s : String} (h : StringText cs s rest) : rest.length < cs.length := by
  cases h with
  | quoted h => exact h.shorter.trans (Nat.lt_succ_self _)

/-! ### Escaped numbers -/

lemma toNat_lt_of_hexValue? (h : hexValue? c = some n) : c.toNat < 128 := by
  by_contra hlarge
  have hdigit : c.isDigit = false := by
    rw [← Bool.not_eq_true, Char.isDigit_iff_toNat]
    have hnine : '9'.toNat = 57 := rfl
    omega
  have hletter : ∀ d : Char, d.toNat < 128 → ¬c ≤ d := fun d hd hle =>
    hlarge (Nat.lt_of_le_of_lt (UInt32.le_iff_toNat_le.1 hle) hd)
  have hnone : hexValue? c = none := by
    simp [hexValue?, hdigit, hletter 'f' (by decide), hletter 'F' (by decide)]
  rw [hnone] at h
  cases h

/-- The reader knows the digits in both cases. -/
lemma hexValue?_eq_some_iff : hexValue? c = some n ↔ IsHexDigit c n := by
  have hascii : ∀ m < 128, ∀ n ∈ hexValue? (Char.ofNat m), IsHexDigit (Char.ofNat m) n := by decide
  have hdigits : ∀ n < 16, hexValue? (Nat.digitChar n) = some n ∧
      hexValue? (Nat.digitChar n).toUpper = some n := by decide
  constructor
  · intro h
    have hc := hascii c.toNat (toNat_lt_of_hexValue? h)
    rw [Char.ofNat_toNat] at hc
    exact hc n h
  · rintro ⟨hn, rfl | rfl⟩
    · exact (hdigits n hn).1
    · exact (hdigits n hn).2

lemma hexValue4?_eq_some_iff {a b c d : Char} :
    hexValue4? a b c d = some n ↔ UnitText ('\\' :: 'u' :: a :: b :: c :: d :: rest) n rest := by
  simp only [hexValue4?, Option.bind_eq_bind, Option.bind_eq_some_iff, Option.pure_def,
    Option.some.injEq, hexValue?_eq_some_iff]
  constructor
  · rintro ⟨i, ha, j, hb, k, hc, l, hd, rfl⟩
    have htext := UnitText.digits ha hb hc hd rest
    rwa [show i * 4096 + j * 256 + k * 16 + l = ((i * 16 + j) * 16 + k) * 16 + l by omega] at htext
  · rintro ⟨ha, hb, hc, hd⟩
    exact ⟨_, ha, _, hb, _, hc, _, hd, by omega⟩

lemma UnitText.exists_hexValue4? (h : UnitText cs n rest) : ∃ a b c d,
    cs = '\\' :: 'u' :: a :: b :: c :: d :: rest ∧ hexValue4? a b c d = some n := by
  cases h with
  | digits ha hb hc hd => exact ⟨_, _, _, _, rfl, hexValue4?_eq_some_iff.2 (.digits ha hb hc hd rest)⟩

/-! ### Characters -/

lemma escaped?_eq_some_iff {e : Char} : escaped? e = some c ↔ (e, c) ∈ shortEscapes := by
  unfold escaped? shortEscapes
  split <;> simp_all [eq_comm]

lemma isHighSurrogate_iff : isHighSurrogate n = true ↔ 0xD800 ≤ n ∧ n < 0xDC00 := by
  simp [isHighSurrogate]

lemma isLowSurrogate_iff : isLowSurrogate n = true ↔ 0xDC00 ≤ n ∧ n < 0xE000 := by
  simp [isLowSurrogate]

lemma UnitText.lt (h : UnitText cs n rest) : n < 0x10000 := by
  cases h with
  | digits ha hb hc hd =>
    have := ha.1
    have := hb.1
    have := hc.1
    have := hd.1
    omega

/-- No character has the number of a surrogate. -/
lemma toNat_lt_or_ge (c : Char) : c.toNat < 0xD800 ∨ 0xE000 ≤ c.toNat := by
  have hvalid : c.toNat < 0xD800 ∨ 0xDFFF < c.toNat ∧ c.toNat < 0x110000 := c.valid
  omega

lemma not_surrogate_toNat (c : Char) :
    isHighSurrogate c.toNat = false ∧ isLowSurrogate c.toNat = false := by
  rw [← Bool.not_eq_true, ← Bool.not_eq_true, isHighSurrogate_iff, isLowSurrogate_iff]
  have := toNat_lt_or_ge c
  omega

/-- Every other number of four digits is that of a character. -/
lemma toNat_ofNat_of_not_surrogate (hlt : n < 0x10000) (hhigh : ¬isHighSurrogate n = true)
    (hlow : ¬isLowSurrogate n = true) : (Char.ofNat n).toNat = n := by
  rw [isHighSurrogate_iff] at hhigh
  rw [isLowSurrogate_iff] at hlow
  refine (Char.toNat_ofNat n).trans (if_pos ?_)
  unfold Nat.isValidChar
  omega

/-- A pair of surrogates is the number of a character. -/
lemma toNat_ofSurrogates {high low : Nat} (hhigh : isHighSurrogate high = true)
    (hlow : isLowSurrogate low = true) :
    (ofSurrogates high low).toNat = 0x10000 + (high - 0xD800) * 0x400 + (low - 0xDC00) := by
  rw [isHighSurrogate_iff] at hhigh
  rw [isLowSurrogate_iff] at hlow
  refine (Char.toNat_ofNat _).trans (if_pos ?_)
  unfold Nat.isValidChar
  omega

/-- What is read in front of a list. -/
lemma map_cons_eq_some_iff {α : Type} {a : α} {as : List α} {o : Option (List α × List Char)} :
    (o.map fun (s, r) => (a :: s, r)) = some (as, rest) ↔
      ∃ as', as = a :: as' ∧ o = some (as', rest) := by
  constructor
  · intro h
    obtain ⟨⟨as', rest'⟩, hread, heq⟩ := Option.map_eq_some_iff.1 h
    cases heq
    exact ⟨as', rfl, hread⟩
  · rintro ⟨as', rfl, rfl⟩
    rfl

/-- After the first half of a pair the reader wants the second half, and nothing else. -/
lemma readChars?_some_eq_some {high : Nat} {s : List Char}
    (h : readChars? (some high) cs = some (s, rest)) : ∃ low cs' s', UnitText cs low cs' ∧
      isLowSurrogate low = true ∧ s = ofSurrogates high low :: s' ∧
      readChars? none cs' = some (s', rest) := by
  rw [readChars?.eq_def] at h
  split at h
  case h_2 a b c d cs' =>
    split at h
    · cases h
    · next low high' hunit heq =>
      cases heq
      split at h
      · next hlow =>
        obtain ⟨s', rfl, hread⟩ := map_cons_eq_some_iff.1 h
        exact ⟨low, cs', s', hexValue4?_eq_some_iff.1 hunit, hlow, rfl, hread⟩
      · cases h
    · next heq => cases heq
  case h_3 =>
    split at h
    · next heq => cases heq
    · cases h
  all_goals simp at h

/-- The reader takes one character after another up to the closing quote. -/
lemma readChars?_none_eq_some {s : List Char} (h : readChars? none cs = some (s, rest)) :
    (s = [] ∧ cs = '"' :: rest) ∨ ∃ c cs' s', CharText cs c cs' ∧ s = c :: s' ∧
      readChars? none cs' = some (s', rest) := by
  rw [readChars?.eq_def] at h
  split at h
  case h_1 =>
    cases h
    exact .inl ⟨rfl, rfl⟩
  case h_2 a b c d cs' =>
    right
    split at h
    · cases h
    · next heq => cases heq
    · next n hn _ =>
      have hunit : UnitText _ n cs' := hexValue4?_eq_some_iff.1 hn
      split at h
      · next hhigh =>
        obtain ⟨low, cs'', s', hunit', hlow, rfl, hread⟩ := readChars?_some_eq_some h
        have hc := toNat_ofSurrogates hhigh hlow
        rw [isHighSurrogate_iff] at hhigh
        rw [isLowSurrogate_iff] at hlow
        exact ⟨_, cs'', s', .pair hunit hunit' hhigh.1 hhigh.2 hlow.1 hlow.2 hc, rfl, hread⟩
      · next hhigh =>
        split at h
        · cases h
        · next hlow =>
          obtain ⟨s', rfl, hread⟩ := map_cons_eq_some_iff.1 h
          rw [← toNat_ofNat_of_not_surrogate hunit.lt hhigh hlow] at hunit
          exact ⟨_, cs', s', .unit hunit, rfl, hread⟩
  case h_3 e cs' _ =>
    right
    split at h
    · next c hc _ =>
      obtain ⟨s', rfl, hread⟩ := map_cons_eq_some_iff.1 h
      exact ⟨c, cs', s', .short (escaped?_eq_some_iff.1 hc) cs', rfl, hread⟩
    · cases h
  case h_4 c cs' hquote _ _ =>
    right
    split at h
    · cases h
    · next hplain =>
      obtain ⟨s', rfl, hread⟩ := map_cons_eq_some_iff.1 h
      simp only [Option.isSome_none, Bool.false_eq_true, or_false, not_or, Nat.not_lt] at hplain
      exact ⟨c, cs', s', .plain hplain.1 hquote hplain.2 cs', rfl, hread⟩
  case h_5 => cases h

/-- A character of a string is read, whatever its form is. -/
lemma CharText.read (h : CharText cs c cs') :
    readChars? none cs = (readChars? none cs').map fun (s, r) => (c :: s, r) := by
  cases h with
  | plain hcontrol hquote hslash =>
    rw [readChars?, if_neg]
    · simp [hcontrol, hslash]
    · exact hquote
    · exact fun _ _ _ _ _ heq => absurd heq hslash
    · exact fun _ _ heq => absurd heq hslash
  | short he =>
    simp only [shortEscapes, List.mem_cons, Prod.mk.injEq, List.not_mem_nil, or_false] at he
    rcases he with ⟨rfl, rfl⟩ | ⟨rfl, rfl⟩ | ⟨rfl, rfl⟩ | ⟨rfl, rfl⟩ | ⟨rfl, rfl⟩ | ⟨rfl, rfl⟩ |
      ⟨rfl, rfl⟩ | ⟨rfl, rfl⟩ <;> simp [readChars?, escaped?]
  | unit h =>
    obtain ⟨a, b, d, e, rfl, hunit⟩ := h.exists_hexValue4?
    obtain ⟨hhigh, hlow⟩ := not_surrogate_toNat c
    simp [readChars?, hunit, hhigh, hlow]
  | @pair _ _ _ _ high low hhigh hlow hge hlt hge' hlt' hc =>
    obtain ⟨a, b, d, e, rfl, hunit⟩ := hhigh.exists_hexValue4?
    obtain ⟨a', b', d', e', rfl, hunit'⟩ := hlow.exists_hexValue4?
    have his : isHighSurrogate high = true := isHighSurrogate_iff.2 ⟨hge, hlt⟩
    have his' : isLowSurrogate low = true := isLowSurrogate_iff.2 ⟨hge', hlt'⟩
    have hchar : ofSurrogates high low = c :=
      Char.toNat_inj.1 ((toNat_ofSurrogates his his').trans hc.symm)
    simp [readChars?, hunit, hunit', his, his', hchar]

/-- The reader takes just the characters of the grammar. -/
lemma readChars?_eq_some_iff {s : List Char} :
    readChars? none cs = some (s, rest) ↔ CharsText cs s rest := by
  constructor
  · intro h
    -- a character takes up to twelve of the text, so the induction is on the length of the text
    induction hlen : cs.length using Nat.strong_induction_on generalizing cs s with
    | _ len ih =>
      rcases readChars?_none_eq_some h with ⟨rfl, rfl⟩ | ⟨c, cs', s', hc, rfl, hread⟩
      · exact .done rest
      · exact .more hc (ih _ (hlen ▸ hc.shorter) hread rfl)
  · intro h
    induction h with
    | done => simp [readChars?]
    | more hc _ ih => rw [hc.read, ih, Option.map_some]

/-- The reader takes just the strings of the grammar. -/
lemma readString?_eq_some_iff {s : String} :
    readString? cs = some (s, rest) ↔ StringText ('"' :: cs) s rest := by
  rw [readString?]
  constructor
  · intro h
    obtain ⟨⟨s', rest'⟩, hread, heq⟩ := Option.map_eq_some_iff.1 h
    cases heq
    exact .quoted (readChars?_eq_some_iff.1 hread)
  · rintro ⟨h⟩
    rw [readChars?_eq_some_iff.2 h]
    rfl

/-! ### Strings of numbers

The grammar of JSON says of the four digits after `\u` only that they are there.  By it a string is a
sequence of numbers, and surrogates need not come in pairs.
-/

/-- The numbers of a string up to its closing quote. -/
inductive CodesText : List Char → List Nat → List Char → Prop where
  | done (rest : List Char) : CodesText ('"' :: rest) [] rest
  | plain {c : Char} {cs rest : List Char} {ns : List Nat} (hcontrol : 0x20 ≤ c.toNat)
    (hquote : c ≠ '"') (hslash : c ≠ '\\') (h : CodesText cs ns rest) :
    CodesText (c :: cs) (c.toNat :: ns) rest
  | short {e c : Char} {cs rest : List Char} {ns : List Nat} (he : (e, c) ∈ shortEscapes)
    (h : CodesText cs ns rest) : CodesText ('\\' :: e :: cs) (c.toNat :: ns) rest
  | unit {cs cs' rest : List Char} {n : Nat} {ns : List Nat} (hn : UnitText cs n cs')
    (h : CodesText cs' ns rest) : CodesText cs (n :: ns) rest

/-- A string between its quotes, by its numbers. -/
inductive CodedText : List Char → List Nat → List Char → Prop where
  | quoted {cs rest : List Char} {ns : List Nat} (h : CodesText cs ns rest) :
    CodedText ('"' :: cs) ns rest

/-- Every surrogate is in a pair. -/
inductive Paired : List Nat → Prop where
  | nil : Paired []
  | char {n : Nat} {ns : List Nat} (hn : n < 0xD800 ∨ 0xE000 ≤ n) (h : Paired ns) :
    Paired (n :: ns)
  | pair {high low : Nat} {ns : List Nat} (hge : 0xD800 ≤ high) (hlt : high < 0xDC00)
    (hge' : 0xDC00 ≤ low) (hlt' : low < 0xE000) (h : Paired ns) : Paired (high :: low :: ns)

lemma CharsText.exists_paired {s : List Char} (h : CharsText cs s rest) :
    ∃ ns, CodesText cs ns rest ∧ Paired ns := by
  induction h with
  | done => exact ⟨[], .done _, .nil⟩
  | @more _ _ _ _ c hc _ ih =>
    obtain ⟨ns, hns, hpaired⟩ := ih
    cases hc with
    | plain hcontrol hquote hslash =>
      exact ⟨_, .plain hcontrol hquote hslash hns, .char (toNat_lt_or_ge c) hpaired⟩
    | short he => exact ⟨_, .short he hns, .char (toNat_lt_or_ge c) hpaired⟩
    | unit h => exact ⟨_, .unit h hns, .char (toNat_lt_or_ge c) hpaired⟩
    | pair hhigh hlow hge hlt hge' hlt' =>
      exact ⟨_, .unit hhigh (.unit hlow hns), .pair hge hlt hge' hlt' hpaired⟩

/-- A surrogate among the numbers of a string is the number of an escape. -/
lemma CodesText.unit_of_surrogate {ns : List Nat} (h : CodesText cs (n :: ns) rest)
    (hge : 0xD800 ≤ n) (hlt : n < 0xE000) : ∃ cs', UnitText cs n cs' ∧ CodesText cs' ns rest := by
  cases h with
  | @plain c | @short _ c =>
    have := toNat_lt_or_ge c
    omega
  | unit hn h => exact ⟨_, hn, h⟩

lemma Paired.exists_charsText {ns : List Nat} (hpaired : Paired ns) (h : CodesText cs ns rest) :
    ∃ s, CharsText cs s rest := by
  induction hpaired generalizing cs with
  | nil =>
    cases h
    exact ⟨[], .done rest⟩
  | @char n _ hn _ ih =>
    cases h with
    | plain hcontrol hquote hslash h =>
      obtain ⟨s, hs⟩ := ih h
      exact ⟨_, .more (.plain hcontrol hquote hslash _) hs⟩
    | short he h =>
      obtain ⟨s, hs⟩ := ih h
      exact ⟨_, .more (.short he _) hs⟩
    | unit hunit h =>
      obtain ⟨s, hs⟩ := ih h
      have hc : (Char.ofNat n).toNat = n := by
        apply toNat_ofNat_of_not_surrogate hunit.lt
        · rw [isHighSurrogate_iff]
          omega
        · rw [isLowSurrogate_iff]
          omega
      exact ⟨_, .more (.unit (hc.symm ▸ hunit)) hs⟩
  | pair hge hlt hge' hlt' _ ih =>
    obtain ⟨cs₁, hhigh, h⟩ := h.unit_of_surrogate hge (by omega)
    obtain ⟨cs₂, hlow, h⟩ := h.unit_of_surrogate (by omega) hlt'
    obtain ⟨s, hs⟩ := ih h
    have hc := toNat_ofSurrogates (isHighSurrogate_iff.2 ⟨hge, hlt⟩)
      (isLowSurrogate_iff.2 ⟨hge', hlt'⟩)
    exact ⟨_, .more (.pair hhigh hlow hge hlt hge' hlt' hc) hs⟩

/-- A string of JSON's grammar is read where its surrogates come in pairs, and every string that is
read is one of these. -/
theorem exists_readString?_iff : (∃ s, readString? cs = some (s, rest)) ↔
    ∃ ns, CodedText ('"' :: cs) ns rest ∧ Paired ns := by
  constructor
  · rintro ⟨s, hread⟩
    cases readString?_eq_some_iff.1 hread with
    | quoted h =>
      obtain ⟨ns, hns, hpaired⟩ := h.exists_paired
      exact ⟨ns, .quoted hns, hpaired⟩
  · rintro ⟨ns, ⟨h⟩, hpaired⟩
    obtain ⟨s, hs⟩ := hpaired.exists_charsText h
    exact ⟨_, readString?_eq_some_iff.2 (.quoted hs)⟩

/-! ## Objects -/

section Objects

variable {α : Type} {V : List Char → α → List Char → Prop} {R : Json → α → Prop}

/-- A name, a colon and a value, with white space before each of them. -/
inductive MemberText (V : List Char → α → List Char → Prop) :
    List Char → String × α → List Char → Prop where
  | named {cs₁ cs₂ cs₃ cs₄ cs₅ rest : List Char} {name : String} {a : α} (hbefore : Spaced cs₁ cs₂)
    (hname : StringText cs₂ name cs₃) (hcolon : Spaced cs₃ (':' :: cs₄)) (hspace : Spaced cs₄ cs₅)
    (hvalue : V cs₅ a rest) : MemberText V cs₁ (name, a) rest

/-- Members with commas between them, up to the end of the object. -/
inductive MembersText (V : List Char → α → List Char → Prop) :
    List Char → List (String × α) → List Char → Prop where
  | last {cs cs' rest : List Char} {m : String × α} (hm : MemberText V cs m cs')
    (hend : Spaced cs' ('}' :: rest)) : MembersText V cs [m] rest
  | more {cs cs₁ cs₂ rest : List Char} {m : String × α} {ms : List (String × α)}
    (hm : MemberText V cs m cs₁) (hcomma : Spaced cs₁ (',' :: cs₂))
    (hms : MembersText V cs₂ ms rest) : MembersText V cs (m :: ms) rest

/-- An object, given the form of the values of its members. -/
inductive ObjectText (V : List Char → α → List Char → Prop) :
    List Char → List (String × α) → List Char → Prop where
  | empty {cs rest : List Char} (hend : Spaced cs ('}' :: rest)) : ObjectText V ('{' :: cs) [] rest
  | members {cs rest : List Char} {ms : List (String × α)} (h : MembersText V cs ms rest) :
    ObjectText V ('{' :: cs) ms rest

/-- Members that have the given names and stand for the given values. -/
def Members (R : Json → α → Prop) (ms : List (String × Json)) (as : List (String × α)) : Prop :=
  List.Forall₂ (fun m a => m.1 = a.1 ∧ R m.2 a.2) ms as

/-- An object with such members. -/
def IsObject (R : Json → α → Prop) (j : Json) (as : List (String × α)) : Prop :=
  ∃ ms, j = .object ms ∧ Members R ms as

lemma isObject_object_iff {ms : List (String × Json)} {as : List (String × α)} :
    IsObject R (.object ms) as ↔ Members R ms as := by
  simp [IsObject]

/-- The reader follows a form of the grammar where it reads values of one sort: it takes no text but
those of the form, and it takes all of them. -/
structure Reads (V : List Char → α → List Char → Prop) (R : Json → α → Prop) : Prop where
  sound : ∀ {fuel cs rest j a}, readValue? fuel cs = some (j, rest) → R j a →
    ∃ cs', Spaced cs cs' ∧ V cs' a rest
  complete : ∀ {fuel cs cs' rest a}, Spaced cs cs' → V cs' a rest → cs.length ≤ fuel →
    ∃ j, readValue? fuel cs = some (j, rest) ∧ R j a
  shorter : ∀ {cs rest a}, V cs a rest → rest.length < cs.length

/-! ### What a value is read from -/

lemma skip_skip (cs : List Char) : skip (skip cs) = skip cs := (spaced_skip cs).skip_eq.symm

lemma readMembers?_skip (fuel : Nat) (cs : List Char) :
    readMembers? fuel (skip cs) = readMembers? fuel cs := by
  cases fuel with
  | zero => rfl
  | succ fuel => rw [readMembers?, readMembers?, skip_skip]

/-- A string is read from after a quote, an object from after a brace. -/
lemma origin_of_readValue? {j : Json} (h : readValue? fuel cs = some (j, rest)) :
    (∀ s, j = .string s → ∃ cs', skip cs = '"' :: cs' ∧ readString? cs' = some (s, rest)) ∧
      ∀ ms, j = .object ms → ∃ cs', skip cs = '{' :: cs' ∧
        (ms = [] ∧ skip cs' = '}' :: rest ∨
          ∃ fuel', readMembers? fuel' cs' = some (ms, rest)) := by
  cases fuel with
  | zero => cases h
  | succ fuel =>
    rw [readValue?] at h
    split at h
    case h_4 cs' hskip =>
      obtain ⟨⟨s', rest'⟩, hread, heq⟩ := Option.map_eq_some_iff.1 h
      cases heq
      refine ⟨?_, by simp⟩
      rintro s ⟨⟩
      exact ⟨cs', hskip, hread⟩
    case h_6 cs' hskip =>
      refine ⟨?_, ?_⟩
      · split at h
        · cases h
          simp
        · obtain ⟨⟨ms, rest'⟩, -, heq⟩ := Option.map_eq_some_iff.1 h
          cases heq
          simp
      · rintro ms rfl
        refine ⟨cs', hskip, ?_⟩
        split at h
        · next hend =>
          cases h
          exact .inl ⟨rfl, hend⟩
        · obtain ⟨⟨ms, rest'⟩, hread, heq⟩ := Option.map_eq_some_iff.1 h
          cases heq
          exact .inr ⟨fuel, readMembers?_skip fuel cs' ▸ hread⟩
    case h_5 =>
      split at h
      · cases h
        simp
      · obtain ⟨⟨vs, rest'⟩, -, heq⟩ := Option.map_eq_some_iff.1 h
        cases heq
        simp
    case h_7 =>
      obtain ⟨⟨n, rest'⟩, -, heq⟩ := Option.map_eq_some_iff.1 h
      cases heq
      simp
    all_goals
      cases h
      simp

/-- Strings are read as the grammar has them. -/
theorem reads_string : Reads StringText fun j s => j = .string s where
  sound h := by
    rintro rfl
    obtain ⟨cs', hskip, hread⟩ := (origin_of_readValue? h).1 _ rfl
    exact ⟨_, spaced_of_skip hskip, readString?_eq_some_iff.1 hread⟩
  complete {fuel cs cs' rest s} hspace h hfuel := by
    refine ⟨_, ?_, rfl⟩
    cases h with
    | @quoted cs' _ s hs =>
      have hread := readString?_eq_some_iff.2 (.quoted hs)
      have hlen := hspace.length_le
      rw [List.length_cons] at hlen
      obtain ⟨fuel, rfl⟩ : ∃ f, fuel = f + 1 := ⟨fuel - 1, by omega⟩
      replace hspace := hspace.skip_eq_cons (by decide)
      simp only [readValue?, hspace, hread, Option.map_some]
  shorter h := h.shorter

/-! ### Members -/

lemma MemberText.shorter (hV : Reads V R) {m : String × α} (h : MemberText V cs m rest) :
    rest.length < cs.length := by
  obtain ⟨hbefore, hname, hcolon, hspace, hvalue⟩ := h
  have := hbefore.length_le
  have := hname.shorter
  have := hcolon.length_le
  have := hspace.length_le
  have := hV.shorter hvalue
  simp only [List.length_cons] at *
  omega

lemma MembersText.shorter (hV : Reads V R) {ms : List (String × α)} (h : MembersText V cs ms rest) :
    rest.length < cs.length := by
  induction h with
  | last hm hend =>
    have := hm.shorter hV
    have := hend.length_le
    simp only [List.length_cons] at *
    omega
  | more hm hcomma _ ih =>
    have := hm.shorter hV
    have := hcomma.length_le
    simp only [List.length_cons] at *
    omega

/-- Members are read from a quoted name, a colon, a value, and then from the end of the object or
from a comma and more members. -/
lemma origin_of_readMembers? {ms : List (String × Json)}
    (h : readMembers? (fuel + 1) cs = some (ms, rest)) : ∃ name j ms' cs₁ cs₂ cs₃ cs₄,
      ms = (name, j) :: ms' ∧ skip cs = '"' :: cs₁ ∧ readString? cs₁ = some (name, cs₂) ∧
      skip cs₂ = ':' :: cs₃ ∧ readValue? fuel cs₃ = some (j, cs₄) ∧
      (ms' = [] ∧ skip cs₄ = '}' :: rest ∨
        ∃ cs₅, skip cs₄ = ',' :: cs₅ ∧ readMembers? fuel cs₅ = some (ms', rest)) := by
  rw [readMembers?] at h
  split at h
  case h_2 => cases h
  next cs₁ hquote =>
  split at h
  case h_1 => cases h
  next name cs₂ hname =>
  split at h
  case h_2 => cases h
  next cs₃ hcolon =>
  split at h
  case h_1 => cases h
  next j cs₄ hvalue =>
  split at h
  case h_3 => cases h
  · next hend =>
    cases h
    exact ⟨name, j, [], cs₁, cs₂, cs₃, cs₄, rfl, hquote, hname, hcolon, hvalue, .inl ⟨rfl, hend⟩⟩
  · next cs₅ hcomma =>
    obtain ⟨ms', rfl, hread⟩ := map_cons_eq_some_iff.1 h
    exact ⟨name, j, ms', cs₁, cs₂, cs₃, cs₄, rfl, hquote, hname, hcolon, hvalue,
      .inr ⟨cs₅, hcomma, hread⟩⟩

/-- Members are read one after another, each from a text of its form. -/
lemma membersText_of_readMembers? (hV : Reads V R) {ms : List (String × Json)}
    {as : List (String × α)} (h : readMembers? fuel cs = some (ms, rest)) (has : Members R ms as) :
    MembersText V cs as rest := by
  induction fuel generalizing cs ms as with
  | zero => cases h
  | succ fuel ih =>
    obtain ⟨name, j, ms', cs₁, cs₂, cs₃, cs₄, rfl, hquote, hname, hcolon, hvalue, hrest⟩ :=
      origin_of_readMembers? h
    obtain ⟨⟨name', a⟩, as', ⟨rfl, ha⟩, has', rfl⟩ := List.forall₂_cons_left_iff.1 has
    obtain ⟨cs', hspace, htext⟩ := hV.sound hvalue ha
    have hmember : MemberText V cs (name, a) cs₄ :=
      .named (spaced_of_skip hquote) (readString?_eq_some_iff.1 hname)
        (spaced_of_skip hcolon) hspace htext
    rcases hrest with ⟨rfl, hend⟩ | ⟨cs₅, hcomma, hread⟩
    · obtain rfl := List.forall₂_nil_left_iff.1 has'
      exact .last hmember (spaced_of_skip hend)
    · exact .more hmember (spaced_of_skip hcomma) (ih hread has')

/-- A member is read, alone or in front of those after a comma. -/
lemma MemberText.exists_readMembers? (hV : Reads V R) {m : String × α}
    (h : MemberText V cs m cs') (hfuel : cs.length ≤ fuel + 1) : ∃ j, R j m.2 ∧
      (∀ rest, skip cs' = '}' :: rest → readMembers? (fuel + 1) cs = some ([(m.1, j)], rest)) ∧
      ∀ next ms rest, skip cs' = ',' :: next → readMembers? fuel next = some (ms, rest) →
        readMembers? (fuel + 1) cs = some ((m.1, j) :: ms, rest) := by
  cases h with
  | named hbefore hname hcolon hspace hvalue =>
    cases hname with
    | quoted hs =>
      have hname := readString?_eq_some_iff.2 (.quoted hs)
      have := hbefore.length_le
      have := hs.shorter
      have := hcolon.length_le
      simp only [List.length_cons] at *
      obtain ⟨j, hread, hj⟩ := hV.complete hspace hvalue (by omega : _ ≤ fuel)
      replace hbefore := hbefore.skip_eq_cons (by decide)
      replace hcolon := hcolon.skip_eq_cons (by decide)
      refine ⟨j, hj, fun rest hend => ?_, fun next ms rest hcomma hrest => ?_⟩
      · rw [readMembers?]
        simp only [hbefore, hname, hcolon, hread, hend]
      · rw [readMembers?]
        simp only [hbefore, hname, hcolon, hread, hcomma, hrest, Option.map_some]

/-- A text of members begins with the quote of a name, not with the end of the object. -/
lemma MembersText.exists_skip {as : List (String × α)} (h : MembersText V cs as rest) :
    ∃ cs', skip cs = '"' :: cs' := by
  have hmember : ∀ {m rest}, MemberText V cs m rest → ∃ cs', skip cs = '"' :: cs' := by
    rintro _ _ ⟨hbefore, ⟨-⟩, -⟩
    exact ⟨_, hbefore.skip_eq_cons (by decide)⟩
  cases h with
  | last hm => exact hmember hm
  | more hm => exact hmember hm

/-- Every text of members is read. -/
lemma MembersText.exists_readMembers? (hV : Reads V R) {as : List (String × α)}
    (h : MembersText V cs as rest) (hfuel : cs.length ≤ fuel) :
    ∃ ms, readMembers? fuel cs = some (ms, rest) ∧ Members R ms as := by
  have hpos := h.shorter hV
  obtain ⟨fuel, rfl⟩ : ∃ f, fuel = f + 1 := ⟨fuel - 1, by omega⟩
  induction h generalizing fuel with
  | last hm hend =>
    obtain ⟨j, hj, hread, -⟩ := hm.exists_readMembers? hV hfuel
    exact ⟨_, hread _ (hend.skip_eq_cons (by decide)), .cons ⟨rfl, hj⟩ .nil⟩
  | more hm hcomma hms ih =>
    obtain ⟨j, hj, -, hread⟩ := hm.exists_readMembers? hV hfuel
    have := hm.shorter hV
    have := hcomma.length_le
    have hpos := hms.shorter hV
    simp only [List.length_cons] at *
    obtain ⟨fuel, rfl⟩ : ∃ f, fuel = f + 1 := ⟨fuel - 1, by omega⟩
    obtain ⟨ms, hrest, hmembers⟩ := ih hpos fuel (by omega)
    exact ⟨_, hread _ _ _ (hcomma.skip_eq_cons (by decide)) hrest,
      .cons ⟨rfl, hj⟩ hmembers⟩

/-- Objects are read as the grammar has them, where the values of their members are. -/
theorem Reads.object (hV : Reads V R) : Reads (ObjectText V) (IsObject R) where
  sound := by
    rintro fuel cs rest _ as h ⟨ms, rfl, has⟩
    obtain ⟨cs', hskip, ⟨rfl, hend⟩ | ⟨fuel', hread⟩⟩ := (origin_of_readValue? h).2 _ rfl
    · obtain rfl := List.forall₂_nil_left_iff.1 has
      exact ⟨_, spaced_of_skip hskip, .empty (spaced_of_skip hend)⟩
    · exact ⟨_, spaced_of_skip hskip,
        .members (membersText_of_readMembers? hV hread has)⟩
  complete := by
    intro fuel cs cs' rest as hspace h hfuel
    have hlen := hspace.length_le
    cases h with
    | empty hend =>
      rw [List.length_cons] at hlen
      obtain ⟨fuel, rfl⟩ : ∃ f, fuel = f + 1 := ⟨fuel - 1, by omega⟩
      replace hspace := hspace.skip_eq_cons (by decide)
      replace hend := hend.skip_eq_cons (by decide)
      refine ⟨.object [], ?_, [], rfl, .nil⟩
      simp only [readValue?, hspace, hend]
    | @members cs' _ _ h =>
      rw [List.length_cons] at hlen
      obtain ⟨fuel, rfl⟩ : ∃ f, fuel = f + 1 := ⟨fuel - 1, by omega⟩
      obtain ⟨ms, hread, hms⟩ := h.exists_readMembers? hV (by omega : cs'.length ≤ fuel)
      replace hspace := hspace.skip_eq_cons (by decide)
      refine ⟨.object ms, ?_, ms, rfl, hms⟩
      -- the reader looks for the end of the object first, and there is a quote in its place
      obtain ⟨cs₁, hquote⟩ := h.exists_skip
      rw [← readMembers?_skip, hquote] at hread
      simp only [readValue?, hspace, hquote]
      split
      · next heq => exact absurd (List.cons.inj heq).1 (by decide)
      · rw [hread, Option.map_some]
  shorter := by
    rintro cs rest as (hend | h)
    · have := hend.length_le
      simp only [List.length_cons] at *
      omega
    · exact (h.shorter hV).trans (Nat.lt_succ_self _)

/-! ## Whole texts -/

/-- A text of a form with white space around it. -/
def WholeText (V : List Char → α → List Char → Prop) (cs : List Char) (a : α) : Prop :=
  ∃ cs' rest, Spaced cs cs' ∧ V cs' a rest ∧ Spaced rest []

/-- The texts of a form are those that are read as a value of it. -/
theorem Reads.parse?_iff (hV : Reads V R) {a : α} :
    (∃ j, parse? cs = some j ∧ R j a) ↔ WholeText V cs a := by
  constructor
  · rintro ⟨j, h, ha⟩
    rw [parse?] at h
    split at h
    · next j' rest hread =>
      split at h
      · next hend =>
        cases h
        obtain ⟨cs', hspace, htext⟩ := hV.sound hread ha
        exact ⟨cs', rest, hspace, htext, spaced_of_skip (List.isEmpty_iff.1 hend)⟩
      · cases h
    · cases h
  · rintro ⟨cs', rest, hspace, htext, hend⟩
    obtain ⟨j, hread, ha⟩ := hV.complete hspace htext (by omega : _ ≤ 2 * cs.length + 1)
    refine ⟨j, ?_, ha⟩
    rw [parse?, hread]
    have hskip : skip rest = [] := hend.skip_eq
    simp only [hskip, List.isEmpty_nil, if_true]

end Objects

end Json

end TypedVars
