import TypedVars.Proofs.Json.Number
import TypedVars.Proofs.Number.Order
import TypedVars.Value.Json

/-!
# The two readings of JSON

A JSON value is read as a typed value by its kind, or by the first variant that takes it.  The two
readings come to the same (`Value.ReadAlike`): scalars are read, an integer as the nearest double,
and `null` and the composite kinds are not.

Values are written to JSON without their tags, and a number that is not finite is written `null`.
So the text of a list of values is also that of the values that will be read from it
(`Value.chars_readForm`), and it is read as an array in which both readings find every value again
but those numbers (`Value.readings_agree_and_undo_writing`).
-/

namespace TypedVars

namespace Json

/-- Elements are written one by one. -/
lemma elementsChars_map {α : Type} {f g : α → Json} (h : ∀ a, (f a).chars = (g a).chars)
    (as : List α) : elementsChars (as.map f) = elementsChars (as.map g) := by
  induction as with
  | nil => rfl
  | cons a as ih => rw [List.map_cons, List.map_cons, elementsChars, elementsChars, h, ih]

lemma text_array_map {α : Type} {f g : α → Json} (h : ∀ a, (f a).chars = (g a).chars)
    (as : List α) : (Json.array (as.map f)).text = (Json.array (as.map g)).text := by
  refine congrArg String.ofList ?_
  cases as with
  | nil => rfl
  | cons a as => rw [List.map_cons, List.map_cons, chars, chars, h, elementsChars_map h]

end Json

namespace Value

/-! ## Reading -/

/-- The JSON values that no typed value stands for, and their kinds. -/
inductive Untyped : Json → String → Prop where
  | null : Untyped .null "null"
  | array (elements : List Json) : Untyped (.array elements) "array"
  | object (members : List (String × Json)) : Untyped (.object members) "object"

/-- The two readings of a JSON value agree. -/
structure ReadAlike (j : Json) : Prop where
  same : ∀ v, ofJson j = .ok v ↔ ofUntagged? j = some v
  /-- Integers are read as the nearest double. -/
  integer : ∀ i, j = .number (.int i) → JsonNumber.holdsInt i = true →
    ∃ x, x.IsNearest i ∧ ofJson j = .ok (.number x)
  /-- Where there is no typed value neither finds one, and the first names the kind. -/
  rejected : ∀ kind, Untyped j kind →
    ofJson j = .error (.unsupportedKind kind) ∧ ofUntagged? j = none
  accepted : (¬∃ kind, Untyped j kind) → ∃ v, ofJson j = .ok v

/-- The kind of a value tells which variant takes it, so it does not matter that numbers are tried
first. -/
lemma readAlike (j : Json) : ReadAlike j where
  same v := by
    cases j with
    | number n => cases n <;> simp [ofJson, ofUntagged?, doubleOfJson?, JsonNumber.toDouble]
    | _ => simp [ofJson, ofUntagged?, doubleOfJson?, stringOfJson?, boolOfJson?]
  integer := by
    rintro i rfl hi
    simp only [JsonNumber.holdsInt, Bool.and_eq_true, decide_eq_true_eq] at hi
    exact ⟨.ofInt i, Double.isNearest_ofInt_of_le (by omega), rfl⟩
  rejected := by
    rintro kind ⟨⟩ <;> exact ⟨rfl, rfl⟩
  accepted h := by
    cases j with
    | null => exact absurd ⟨_, .null⟩ h
    | array vs => exact absurd ⟨_, .array vs⟩ h
    | object ms => exact absurd ⟨_, .object ms⟩ h
    | _ => exact ⟨_, rfl⟩

/-! ## Writing and reading again -/

/-- The value that is read from the text of a value: the same one, but `null` for a number that has
no digits. -/
def readForm : Value → Json
  | .number x => if x.isFinite then .number (.double x) else .null
  | .string s => .string s
  | .boolean b => .bool b

/-- What is read again of a value. -/
inductive ReadAgain : Value → Json → Prop where
  | kept {v : Value} {j : Json} (hfinite : ∀ x, v = .number x → x.isFinite = true)
    (hkind : ofJson j = .ok v) (hvariant : ofUntagged? j = some v) : ReadAgain v j
  | lost {x : Double} (hx : x.isFinite = false) (htext : (toJson (.number x)).text = "null") :
    ReadAgain (.number x) .null

lemma numberChars_of_not_finite {x : Double} (hx : x.isFinite = false) :
    Json.numberChars (.double x) = ['n', 'u', 'l', 'l'] := by
  cases x with
  | finite => cases hx
  | _ => rfl

/-- A value has the text of the value that is read from it. -/
lemma chars_readForm (v : Value) : v.toJson.chars = v.readForm.chars := by
  cases v with
  | number x =>
    rw [toJson, readForm]
    split
    · rfl
    · next hx => rw [Json.chars, Json.chars, numberChars_of_not_finite (Bool.not_eq_true _ ▸ hx)]
  | _ => rfl

lemma exact_readForm (v : Value) : v.readForm.Exact := by
  cases v with
  | number x =>
    rw [readForm]
    split
    · next hx => exact .number (Double.readsBack_double hx)
    · exact .null
  | string s => exact .string s
  | boolean b => exact .bool b

lemma readAgain_readForm (v : Value) : ReadAgain v v.readForm := by
  cases v with
  | number x =>
    rw [readForm]
    split
    · next hx => exact .kept (by rintro _ ⟨⟩; exact hx) rfl rfl
    · next hx =>
      have hx : x.isFinite = false := Bool.not_eq_true _ ▸ hx
      refine .lost hx ?_
      rw [toJson, Json.text, Json.chars, numberChars_of_not_finite hx]
  | string s => exact .kept (by simp) rfl rfl
  | boolean b => exact .kept (by simp) rfl rfl

/-- The two readings agree on every JSON value; and from the text of a list of values both of them
read the values again, in their order, except for the numbers that are not finite, which are written
`null` and are not read. -/
theorem readings_agree_and_undo_writing : (∀ j, ReadAlike j) ∧ ∀ vs : List Value, ∃ js,
    Json.parse? (Json.array (vs.map toJson)).text.toList = some (.array js) ∧
      List.Forall₂ ReadAgain vs js := by
  refine ⟨readAlike, fun vs => ⟨vs.map readForm, ?_, ?_⟩⟩
  · rw [Json.text_array_map chars_readForm]
    refine Json.parse?_text (.array fun j hj => ?_)
    obtain ⟨v, -, rfl⟩ := List.mem_map.1 hj
    exact exact_readForm v
  · rw [List.forall₂_map_right_iff]
    exact List.forall₂_same.2 fun v _ => readAgain_readForm v

end Value

end TypedVars
