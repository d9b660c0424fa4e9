import TypedVars.Proofs.Leading
import TypedVars.Proofs.Number.Literal
import TypedVars.Proofs.Store.Addition
import TypedVars.Proofs.Text.Trim

/-!
# The texts that are read as values

`StoredAs` is the grammar of stored texts, each with what it says: the empty text, a string after
its tag, the two texts of booleans, and the tag of a number before the text of one, with white space
around it or none.  Every text that is in the grammar is read as what it says there, and all others
are undecodable (`Value.storedAs_of_decode`).

The tag is found by characters here and might be cut off by bytes; no text of a single byte and none
whose second byte lies inside of a character has a tag (`Value.decode_of_no_cut`).  A store that
meets an undecodable text answers that text as its failure (`Value.decode_exact`).
-/

namespace TypedVars

open String

/-- The stored texts by what they say. -/
inductive StoredAs : Reading → String → Prop where
  | absent : StoredAs .absent ""
  | string (t : String) : StoredAs (.value (.string t)) ("s:" ++ t)
  | boolean (b : Bool) : StoredAs (.value (.boolean b)) (if b then "b:1" else "b:0")
  | number {body : String} {literal : List Char} {x : Double}
    (htrimmed : Trimmed body.toList literal) (hliteral : IsLiteral literal x) :
    StoredAs (.value (.number x)) ("n:" ++ body)

namespace Value

variable {raw : String} {r : Reading}

/-! ## The grammar -/

lemma decode_of_storedAs (h : StoredAs r raw) : decode raw = r := by
  cases h with
  | absent => rfl
  | string t => exact decode_string t
  | boolean b => cases b <;> rfl
  | number htrimmed hliteral =>
    rw [decode_number, htrimmed.trim_eq, Double.ofChars?_eq_some_iff.2 hliteral]

/-- A text with the tag of a number is in the grammar when the rest of it is the text of one. -/
lemma storedAs_of_decode_number {body : String} (h : decode ("n:" ++ body) = r)
    (hr : r ≠ .undecodable) : StoredAs r ("n:" ++ body) := by
  rw [decode_number] at h
  cases hread : Double.ofChars? (trim body.toList) with
  | none =>
    rw [hread] at h
    exact absurd h.symm hr
  | some x =>
    rw [hread] at h
    subst h
    exact .number (trimmed_trim _) (Double.ofChars?_eq_some_iff.1 hread)

/-- What is read is what the text says in the grammar. -/
lemma storedAs_of_decode (h : decode raw = r) (hr : r ≠ .undecodable) : StoredAs r raw := by
  by_cases htag : ['n', ':'] <+: raw.toList
  · obtain ⟨cs, hcs⟩ := htag
    obtain rfl : raw = "n:" ++ String.ofList cs := by
      simp [← String.toList_inj, ← hcs]
    exact storedAs_of_decode_number h hr
  · cases r with
    | undecodable => exact absurd rfl hr
    | absent =>
      obtain rfl := decode_eq_absent_iff.1 h
      exact .absent
    | value v =>
      -- without the tag of a number a text is the stored form of its value
      obtain rfl := encode_of_decode h htag
      cases v with
      | number x =>
        rw [toList_encode_number] at htag
        exact absurd (List.prefix_append ['n', ':'] x.chars) htag
      | string t => exact .string t
      | boolean b => exact .boolean b

/-- What is in no part of the grammar is undecodable. -/
lemma decode_eq_undecodable_iff : decode raw = .undecodable ↔ ∀ r, ¬StoredAs r raw := by
  constructor
  · intro h r hr
    rw [← decode_of_storedAs hr] at hr
    rw [h] at hr
    cases hr
  · intro h
    by_contra hr
    exact h _ (storedAs_of_decode rfl hr)

lemma decode_eq_value_iff {v : Value} : decode raw = .value v ↔ StoredAs (.value v) raw :=
  ⟨fun h => storedAs_of_decode h nofun, decode_of_storedAs⟩

lemma decode_eq_number_iff {x : Double} : decode raw = .value (.number x) ↔
    ∃ body literal, raw = "n:" ++ body ∧ Trimmed body.toList literal ∧ IsLiteral literal x := by
  rw [decode_eq_value_iff]
  constructor
  · intro h
    cases h with
    | number htrimmed hliteral => exact ⟨_, _, rfl, htrimmed, hliteral⟩
  · rintro ⟨body, literal, rfl, htrimmed, hliteral⟩
    exact .number htrimmed hliteral

lemma decode_eq_string_iff {t : String} :
    decode raw = .value (.string t) ↔ raw = "s:" ++ t := by
  rw [decode_eq_value_iff]
  constructor
  · rintro ⟨⟩
    rfl
  · rintro rfl
    exact .string t

lemma decode_eq_boolean_iff {b : Bool} :
    decode raw = .value (.boolean b) ↔ raw = if b then "b:1" else "b:0" := by
  rw [decode_eq_value_iff]
  constructor
  · rintro ⟨⟩
    rfl
  · rintro rfl
    exact .boolean b

/-! ## Tags and bytes -/

/-- A cut after some number of bytes leaves characters that have this number of bytes. -/
lemma exists_of_takeBytes? {n : ℕ} {cs front : List Char} (h : takeBytes? n cs = some front) :
    ∃ rest, cs = front ++ rest ∧ (encoded front).length = n := by
  induction cs generalizing n front with
  | nil =>
    cases n with
    | zero =>
      cases h
      exact ⟨[], rfl, rfl⟩
    | succ n => cases h
  | cons c cs ih =>
    cases n with
    | zero =>
      cases h
      exact ⟨c :: cs, rfl, rfl⟩
    | succ n =>
      rw [takeBytes?] at h
      obtain ⟨hle, h⟩ := Option.ite_none_right_eq_some.1 h
      obtain ⟨front, hfront, rfl⟩ := Option.map_eq_some_iff.1 h
      obtain ⟨rest, rfl, hlength⟩ := ih hfront
      refine ⟨rest, rfl, ?_⟩
      rw [encoded, List.flatMap_cons, List.length_append, length_utf8EncodeChar, ← encoded, hlength]
      omega

/-- Where no cut can be made after two bytes there is no tag. -/
lemma decode_of_no_cut (hraw : raw ≠ "")
    (hcut : ∀ front rest, raw.toList = front ++ rest → (encoded front).length ≠ 2) :
    decode raw = .undecodable := by
  have hnone : takeBytes? 2 raw.toList = none := by
    by_contra hsome
    obtain ⟨front, hfront⟩ := Option.ne_none_iff_exists'.1 hsome
    obtain ⟨rest, hsplit, hlength⟩ := exists_of_takeBytes? hfront
    exact hcut front rest hsplit hlength
  have hne : raw.toList.isEmpty = false := by simpa using hraw
  rw [decode, readChars_eq_readSlices, readSlices, hne, if_neg Bool.false_ne_true, hnone]

/-! ## What a text says -/

/-- How a stored text is read, by its form. -/
structure ReadByForm (raw : String) : Prop where
  /-- Nothing is stored where the text is empty, and only there. -/
  absent : decode raw = .absent ↔ raw = ""
  /-- A string is what follows its tag, whatever that is. -/
  string : ∀ t, decode raw = .value (.string t) ↔ raw = "s:" ++ t
  /-- The booleans have one text each. -/
  boolean : ∀ b, decode raw = .value (.boolean b) ↔ raw = if b then "b:1" else "b:0"
  /-- The tag of a number is followed by the text of one, perhaps with white space around it. -/
  number : ∀ x, decode raw = .value (.number x) ↔ ∃ body literal, raw = "n:" ++ body ∧
    Trimmed body.toList literal ∧ IsLiteral literal x
  /-- Every text of another form is undecodable. -/
  undecodable : decode raw = .undecodable ↔ ∀ r, ¬StoredAs r raw
  /-- It makes no difference to take the first two bytes for the tag. -/
  slices : decode raw = readSlices raw.toList
  /-- A text that cannot be cut after two bytes, for it has only one or the second one lies inside
  of a character, is undecodable as a whole. -/
  uncut : raw ≠ "" → (∀ front rest, raw.toList = front ++ rest → (encoded front).length ≠ 2) →
    decode raw = .undecodable

lemma readByForm (raw : String) : ReadByForm raw where
  absent := decode_eq_absent_iff
  string _ := decode_eq_string_iff
  boolean _ := decode_eq_boolean_iff
  number _ := decode_eq_number_iff
  undecodable := decode_eq_undecodable_iff
  slices := readChars_eq_readSlices raw.toList
  uncut := decode_of_no_cut

/-- Every text is read by its form, and what a store answers to a read is what the text says, or
that very text as the failure where it has none of the forms. -/
theorem decode_exact (raw : String) : ReadByForm raw ∧
    ∀ (β : Type) [Backend β] [SteadyBackend β] (s : Store β) (var : VarId), var.key ≠ "" →
      Backend.stored s.backend var = some raw →
      ((s.get var).1 = .ok (.value none) ↔ raw = "") ∧
      (∀ v, (s.get var).1 = .ok (.value (some v)) ↔ StoredAs (.value v) raw) ∧
      ((s.get var).1 = .error (.undecodable raw) ↔ ∀ r, ¬StoredAs r raw) := by
  refine ⟨readByForm raw, fun β _ _ s var hkey hstored => ?_⟩
  rw [Store.get_of_steady hkey, hstored, replyOf, ← decode_eq_absent_iff,
    ← decode_eq_undecodable_iff]
  simp only [← decode_eq_value_iff]
  cases decode raw <;> simp

/-- A store with a text that has the letter of a tag and then a character of two bytes. -/
def cutShort : Store Memory where
  backend.map := RawMap.empty.set ⟨.global, "k"⟩ "nü5"

/-- No cut is made inside of the second character, and the failure has it whole. -/
theorem decode_exact_cutShort : (⟨.global, "k"⟩ : VarId).key ≠ "" ∧
    Backend.stored cutShort.backend ⟨.global, "k"⟩ = some "nü5" ∧
    (cutShort.get ⟨.global, "k"⟩).1 = .error (.undecodable "nü5") := by
  have hkey : (⟨.global, "k"⟩ : VarId).key ≠ "" := by decide
  have hstored : Backend.stored cutShort.backend ⟨.global, "k"⟩ = some "nü5" := by decide
  obtain ⟨hform, hstore⟩ := decode_exact "nü5"
  obtain ⟨-, -, hfailure⟩ := hstore Memory cutShort ⟨.global, "k"⟩ hkey hstored
  exact ⟨hkey, hstored, hfailure.2 (hform.undecodable.1 (by decide))⟩

end Value

end TypedVars
