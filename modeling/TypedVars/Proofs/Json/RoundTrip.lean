import Mathlib.Tactic.Common
import TypedVars.Json.Reader
import TypedVars.Json.Writer

/-!
# JSON text is read back

A value is read back from its text (`Json.parse?_text`) when every number in it is: no escape, no
character of another script and no nesting is in the way.  Numbers are a premise here
(`JsonNumber.ReadsBack`) because their digits are no matter of JSON; a value without numbers needs
none.

The reader returns what it did not use, so the statements are about a text with any rest behind it
that cannot belong to the value (`Json.Delimited`).  The length of the text is enough fuel.
-/

namespace TypedVars

namespace Json

/-! ## Strings -/

/-- Two hexadecimal digits are enough for a control character. -/
lemma hexValue4?_hexDigit : ∀ n < 0x20,
    hexValue4? '0' '0' (hexDigit (n / 16)) (hexDigit (n % 16)) = some n := by
  decide

/-- A character is read back from its form in a string, escaped or not. -/
lemma readChars?_stringChar (c : Char) (rest : List Char) :
    readChars? none (stringChar c ++ rest) =
      (readChars? none rest).map fun (s, r) => (c :: s, r) := by
  unfold stringChar
  split
  case h_8 =>
    split
    · next hcontrol =>
      have hhigh : isHighSurrogate c.toNat = false := by
        simp [isHighSurrogate]
        omega
      have hlow : isLowSurrogate c.toNat = false := by
        simp [isLowSurrogate]
        omega
      simp [readChars?, hexValue4?_hexDigit _ hcontrol, hhigh, hlow]
    · next hquote hslash _ _ _ _ _ hplain =>
      have hslash : c ≠ '\\' := hslash
      have hreads : ¬(c.toNat < 0x20 ∨ c = '\\' ∨ (none : Option Nat).isSome = true) := by
        simp [hplain, hslash]
      rw [List.singleton_append, readChars?, if_neg hreads]
      · exact hquote
      · exact fun _ _ _ _ _ heq _ => hslash heq
      · exact fun _ _ heq _ => hslash heq
  all_goals simp [readChars?, escaped?]

/-- A string is read back from after its opening quote. -/
theorem readString?_flatMap (s : String) (rest : List Char) :
    readString? (s.toList.flatMap stringChar ++ '"' :: rest) = some (s, rest) := by
  have hchars : ∀ cs : List Char,
      readChars? none (cs.flatMap stringChar ++ '"' :: rest) = some (cs, rest) := by
    intro cs
    induction cs with
    | nil => simp [readChars?]
    | cons c cs ih =>
      rw [List.flatMap_cons, List.append_assoc, readChars?_stringChar, ih, Option.map_some]
  simp [readString?, hchars]

/-! ## What can follow a value -/

/-- A text that cannot belong to the value before it: it is over or begins with the punctuation of
an array or an object. -/
def Delimited (rest : List Char) : Prop :=
  ∀ c ∈ rest.head?, c = ',' ∨ c = ']' ∨ c = '}'

lemma delimited_nil : Delimited [] := by simp [Delimited]

lemma delimited_elementsChars (vs : List Json) (rest : List Char) :
    Delimited (elementsChars vs ++ rest) := by
  cases vs <;> simp [Delimited, elementsChars]

lemma delimited_membersChars (ms : List (String × Json)) (rest : List Char) :
    Delimited (membersChars ms ++ rest) := by
  cases ms <;> simp [Delimited, membersChars]

lemma skip_cons {c : Char} (h : isSpace c = false) (cs : List Char) : skip (c :: cs) = c :: cs := by
  simp [skip, h]

end Json

/-! ## Numbers -/

/-- A number is read back from its text. -/
def JsonNumber.ReadsBack (n : JsonNumber) : Prop :=
  ∀ rest, Json.Delimited rest → Json.readNumber? (Json.numberChars n ++ rest) = some (n, rest)

namespace Json

/-- A numeral begins with a minus sign or a digit. -/
lemma head_of_readNumber? {cs : List Char} (h : (readNumber? cs).isSome = true) :
    ∃ c rest, cs = c :: rest ∧ (c = '-' ∨ c.isDigit = true) := by
  cases cs with
  | nil => simp [readNumber?] at h
  | cons c rest =>
    refine ⟨c, rest, rfl, ?_⟩
    by_cases hsign : c = '-'
    · exact .inl hsign
    · refine .inr ?_
      by_contra hdigit
      have hwhole : (c :: rest).takeWhile Char.isDigit = [] :=
        List.takeWhile_cons_of_neg hdigit
      simp [readNumber?, hsign, hwhole] at h

/-! ## Values -/

/-- All numbers in a value are read back from their texts. -/
inductive Exact : Json → Prop where
  | null : Exact .null
  | bool (b : Bool) : Exact (.bool b)
  | number {n : JsonNumber} (h : n.ReadsBack) : Exact (.number n)
  | string (s : String) : Exact (.string s)
  | array {vs : List Json} (h : ∀ v ∈ vs, Exact v) : Exact (.array vs)
  | object {ms : List (String × Json)} (h : ∀ m ∈ ms, Exact m.2) : Exact (.object ms)

/-- A value is read back from its text with as many steps as the text is long. -/
def ReadsBack (j : Json) : Prop :=
  ∀ fuel rest, j.chars.length ≤ fuel → Delimited rest →
    readValue? fuel (j.chars ++ rest) = some (j, rest)

/-- The text of a value begins with neither white space nor the end of an array. -/
lemma Exact.head {j : Json} (h : j.Exact) :
    ∃ c cs, j.chars = c :: cs ∧ isSpace c = false ∧ c ≠ ']' := by
  cases h with
  | null => exact ⟨_, _, rfl, rfl, by decide⟩
  | bool b => cases b <;> exact ⟨_, _, rfl, rfl, by decide⟩
  | @number n hn =>
    have hread := hn [] delimited_nil
    rw [List.append_nil] at hread
    obtain ⟨c, cs, hchars, hc⟩ := head_of_readNumber? (by rw [hread]; rfl)
    refine ⟨c, cs, hchars, ?_⟩
    rcases hc with rfl | hdigit
    · decide
    · constructor
      · simp only [isSpace, Bool.or_eq_false_iff, beq_eq_false_iff_ne]
        refine ⟨⟨⟨?_, ?_⟩, ?_⟩, ?_⟩ <;> rintro rfl <;> revert hdigit <;> decide
      · rintro rfl
        revert hdigit
        decide
  | string s => exact ⟨_, _, rfl, rfl, by decide⟩
  | @array vs _ => cases vs <;> exact ⟨_, _, rfl, rfl, by decide⟩
  | @object ms _ => rcases ms with _ | ⟨m, ms⟩ <;> exact ⟨_, _, rfl, rfl, by decide⟩

/-- The text of a value has at least one character, so there is a step to make. -/
lemma Exact.readsBack_of_succ {j : Json} (h : j.Exact)
    (hstep : ∀ fuel rest, j.chars.length ≤ fuel + 1 → Delimited rest →
      readValue? (fuel + 1) (j.chars ++ rest) = some (j, rest)) : j.ReadsBack := by
  intro fuel rest hfuel hrest
  obtain ⟨c, cs, hchars, -⟩ := h.head
  cases fuel with
  | zero => simp [hchars] at hfuel
  | succ fuel => exact hstep fuel rest hfuel hrest

lemma readsBack_number {n : JsonNumber} (h : n.ReadsBack) : (Json.number n).ReadsBack := by
  refine (Exact.number h).readsBack_of_succ fun fuel rest _ hrest => ?_
  have hread := h rest hrest
  obtain ⟨c, cs, hchars, hspace, -⟩ := (Exact.number h).head
  have htext : numberChars n = c :: cs := by rw [← hchars, chars]
  rw [htext, List.cons_append] at hread
  obtain ⟨c', cs', heq, hc⟩ := head_of_readNumber? (by rw [hread]; rfl)
  obtain ⟨rfl, rfl⟩ := List.cons.inj heq
  have hfirst : ∀ d : Char, d ≠ '-' → d.isDigit = false → c ≠ d := by
    rintro d hsign hdigit rfl
    rcases hc with hc | hc
    · exact hsign hc
    · rw [hdigit] at hc
      cases hc
  rw [hchars, List.cons_append, readValue?, skip_cons hspace]
  split
  case h_7 => rw [hread, Option.map_some]
  all_goals
    next heq =>
      exact absurd (List.cons.inj heq).1 (hfirst _ (by decide) (by decide))

lemma readsBack_string (s : String) : (Json.string s).ReadsBack := by
  refine (Exact.string s).readsBack_of_succ fun fuel rest _ _ => ?_
  have hread := readString?_flatMap s rest
  simp (disch := decide) only [chars, stringChars, List.cons_append, List.append_assoc,
    List.nil_append, readValue?, skip_cons, hread, Option.map_some]

/-- Elements are read one after another up to the end of the array. -/
lemma readElements?_chars {v : Json} {vs : List Json} (hv : v.ReadsBack)
    (hvs : ∀ w ∈ vs, w.ReadsBack) {fuel : Nat} (rest : List Char)
    (hfuel : (v.chars ++ elementsChars vs).length ≤ fuel) :
    readElements? fuel (v.chars ++ (elementsChars vs ++ rest)) = some (v :: vs, rest) := by
  induction vs generalizing v fuel with
  | nil =>
    simp only [elementsChars, List.length_append, List.length_cons, List.length_nil] at hfuel
    obtain ⟨fuel, rfl⟩ : ∃ f, fuel = f + 1 := ⟨fuel - 1, by omega⟩
    rw [readElements?, hv fuel _ (by omega) (delimited_elementsChars [] rest)]
    simp (disch := decide) only [elementsChars, List.cons_append, List.nil_append, skip_cons]
  | cons w vs ih =>
    have hw := hvs w List.mem_cons_self
    have htail := fun u hu => hvs u (List.mem_cons_of_mem w hu)
    have hlen : (v.chars ++ elementsChars (w :: vs)).length =
        v.chars.length + ((w.chars ++ elementsChars vs).length + 1) := by
      simp only [elementsChars, List.length_append, List.length_cons]
    obtain ⟨fuel, rfl⟩ : ∃ f, fuel = f + 1 := ⟨fuel - 1, by omega⟩
    rw [readElements?, hv fuel _ (by omega) (delimited_elementsChars (w :: vs) rest)]
    simp (disch := decide) only [elementsChars, List.cons_append, List.append_assoc, skip_cons]
    rw [ih hw htail (by omega), Option.map_some]

/-- Members are read one after another up to the end of the object. -/
lemma readMembers?_chars {name : String} {v : Json} {ms : List (String × Json)} (hv : v.ReadsBack)
    (hms : ∀ m ∈ ms, m.2.ReadsBack) {fuel : Nat} (rest : List Char)
    (hfuel : (stringChars name ++ ':' :: (v.chars ++ membersChars ms)).length ≤ fuel) :
    readMembers? fuel (stringChars name ++ ':' :: (v.chars ++ (membersChars ms ++ rest))) =
      some ((name, v) :: ms, rest) := by
  induction ms generalizing name v fuel with
  | nil =>
    simp only [membersChars, List.length_append, List.length_cons, List.length_nil] at hfuel
    obtain ⟨fuel, rfl⟩ : ∃ f, fuel = f + 1 := ⟨fuel - 1, by omega⟩
    have hread := hv fuel _ (by omega) (delimited_membersChars [] rest)
    simp only [membersChars, List.cons_append, List.nil_append] at hread ⊢
    simp (disch := decide) only [stringChars, List.cons_append, List.append_assoc, List.nil_append,
      readMembers?, skip_cons, readString?_flatMap, hread]
  | cons m ms ih =>
    obtain ⟨next, w⟩ := m
    have hw : w.ReadsBack := hms (next, w) List.mem_cons_self
    have htail := fun u hu => hms u (List.mem_cons_of_mem (next, w) hu)
    have hlen : (stringChars name ++ ':' :: (v.chars ++ membersChars ((next, w) :: ms))).length =
        (stringChars name).length + v.chars.length + 1 +
          ((stringChars next ++ ':' :: (w.chars ++ membersChars ms)).length + 1) := by
      simp only [membersChars, List.length_append, List.length_cons]
      omega
    obtain ⟨fuel, rfl⟩ : ∃ f, fuel = f + 1 := ⟨fuel - 1, by omega⟩
    have hread := hv fuel _ (by omega) (delimited_membersChars ((next, w) :: ms) rest)
    have hmore : readMembers? fuel (stringChars next ++ ':' :: (w.chars ++
        (membersChars ms ++ rest))) = some ((next, w) :: ms, rest) := ih hw htail (by omega)
    simp only [membersChars, List.cons_append, List.append_assoc] at hread ⊢
    rw [stringChars, List.cons_append, readMembers?]
    simp (disch := decide) only [List.append_assoc, List.cons_append, List.nil_append, skip_cons,
      readString?_flatMap, hread, hmore, Option.map_some]

lemma readsBack_array {vs : List Json} (hexact : ∀ v ∈ vs, v.Exact)
    (h : ∀ v ∈ vs, v.ReadsBack) : (Json.array vs).ReadsBack := by
  refine (Exact.array hexact).readsBack_of_succ fun fuel rest hfuel _ => ?_
  cases vs with
  | nil => rfl
  | cons v vs =>
    simp only [chars, List.length_cons, Nat.add_le_add_iff_right] at hfuel
    obtain ⟨c, cs, hchars, hspace, hnot⟩ := (hexact v List.mem_cons_self).head
    have hread := readElements?_chars (h v List.mem_cons_self)
      (fun w hw => h w (List.mem_cons_of_mem v hw)) rest hfuel
    simp (disch := decide) only [chars, List.cons_append, List.append_assoc, readValue?, skip_cons]
    rw [hchars, List.cons_append] at hread ⊢
    rw [skip_cons hspace]
    split
    · next heq => exact absurd (List.cons.inj heq).1 hnot
    · rw [hread, Option.map_some]

lemma readsBack_object {ms : List (String × Json)} (hexact : ∀ m ∈ ms, m.2.Exact)
    (h : ∀ m ∈ ms, m.2.ReadsBack) : (Json.object ms).ReadsBack := by
  refine (Exact.object hexact).readsBack_of_succ fun fuel rest hfuel _ => ?_
  rcases ms with _ | ⟨⟨name, v⟩, ms⟩
  · rfl
  · simp only [chars, List.length_cons, Nat.add_le_add_iff_right] at hfuel
    have hv : v.ReadsBack := h (name, v) List.mem_cons_self
    have hread := readMembers?_chars hv
      (fun m hm => h m (List.mem_cons_of_mem (name, v) hm)) rest hfuel
    simp (disch := decide) only [chars, List.cons_append, List.append_assoc, readValue?, skip_cons]
    rw [stringChars, List.cons_append] at hread ⊢
    simp (disch := decide) only [skip_cons]
    split
    · next heq => exact absurd (List.cons.inj heq).1 (by decide)
    · rw [hread, Option.map_some]

/-- A value is read back from its text, whatever follows, when its numbers are. -/
theorem Exact.readsBack {j : Json} (h : j.Exact) : j.ReadsBack := by
  induction h with
  | null => exact Exact.null.readsBack_of_succ fun _ _ _ _ => rfl
  | bool b => exact (Exact.bool b).readsBack_of_succ fun _ _ _ _ => by cases b <;> rfl
  | number h => exact readsBack_number h
  | string s => exact readsBack_string s
  | array h ih => exact readsBack_array h ih
  | object h ih => exact readsBack_object h ih

/-- The text of a value is read as that value, when its numbers are. -/
theorem parse?_text {j : Json} (h : j.Exact) : parse? j.text.toList = some j := by
  have hread := h.readsBack (2 * j.chars.length + 1) [] (by omega) delimited_nil
  rw [List.append_nil] at hread
  simp [parse?, text, hread, skip]

end Json

end TypedVars
