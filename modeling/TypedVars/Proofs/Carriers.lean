import TypedVars.Proofs.Json.Number
import TypedVars.Proofs.Number.Whole
import TypedVars.Proofs.Store.Addition

/-!
# Amounts in different carriers

One amount can be given as numbers of several kinds, as text and in JSON, and a counter can be kept
as a number or as a string.  `Carries` says which amounts stand for an integer; each of them counts
as that integer, clamped to 64 bits (`Carries.delta_eq`).  A number with a fraction counts as its
integer part, and so does its text (`Double.leadingInt?_text`).  Since an increment depends on
nothing but the integers that it finds and is given, it comes to the same for all of them
(`amounts_count_alike`).
-/

namespace TypedVars

/-- The amounts that stand for an integer: every kind of number that can hold it, its decimal
notation, either of the two in JSON, and any of these where the amount is optional. -/
inductive Carries : ℤ → Amount → Prop where
  | int64 (i : Int64) : Carries i.toInt (.int64 i)
  | int32 (i : Int32) : Carries i.toInt (.int32 i)
  | uint32 (n : UInt32) : Carries n.toNat (.uint32 n)
  | text (m : ℤ) : Carries m (.text (toString m))
  | jsonNumber {m : ℤ} (h : JsonNumber.holdsInt m = true) : Carries m (.json (.number (.int m)))
  | jsonText (m : ℤ) : Carries m (.json (.string (toString m)))
  | given {m : ℤ} {a : Amount} (h : Carries m a) : Carries m (.given a)

lemma Double.toInt64?_ofInt_of_large {m : ℤ} (hlow : 2 ^ 63 ≤ m) (hhigh : m ≤ 2 ^ 64) :
    (ofInt m).toInt64? = some maxInt64 := by
  have hm : m.natAbs ≤ 2 ^ 64 := by omega
  obtain ⟨n, hn⟩ := exists_value_ofInt hm
  have hlarge := (bounds_of_value_ofInt (k := 2 ^ 52) (t := 11) hn (by decide) (by decide) hm).1
    (by omega)
  have hclamp : clamp n = maxInt64 := by
    simp only [clamp, minInt64, maxInt64]
    omega
  rw [toInt64?_of_value (isNearest_ofInt_of_le hm).finite hn, hclamp]

/-- JSON keeps the integers of 64 bits with a sign and those without exact.  One of the latter that
is too great for the former is taken for its double, and that one is clamped. -/
lemma Amount.numberDelta_int {m : ℤ} (hm : JsonNumber.holdsInt m = true) :
    numberDelta (.int m) = clamp m := by
  simp only [JsonNumber.holdsInt, Bool.and_eq_true, decide_eq_true_eq] at hm
  rw [numberDelta]
  split
  · next hrange => rw [clamp_eq_self hrange.1 hrange.2]
  · next hrange =>
    have hlarge : 2 ^ 63 ≤ m := by
      simp only [minInt64, maxInt64] at hrange
      omega
    have hclamp : clamp m = maxInt64 := by
      simp only [clamp, minInt64, maxInt64]
      omega
    rw [Double.toInt64?_ofInt_of_large hlarge (by omega), hclamp]
    rfl

/-- Whatever stands for an integer counts as that integer, clamped. -/
theorem Carries.delta_eq {m : ℤ} {a : Amount} (h : Carries m a) : a.delta = clamp m := by
  induction h with
  | int64 i | int32 i | uint32 n => exact (Amount.clamp_delta _).symm
  | text m | jsonText m => exact congrArg (·.getD 0) (leadingInt?_toString m)
  | jsonNumber hm => exact Amount.numberDelta_int hm
  | given h ih => exact ih

lemma Json.parse?_toString {m : ℤ} (hm : JsonNumber.holdsInt m = true) :
    parse? (toString m).toList = some (.number (.int m)) := by
  have hchars : (toString m).toList = (number (.int m)).text.toList := by
    rw [text, String.toList_ofList, chars, numberChars, intChars, Double.toList_toString]
    simp [Double.signChars]
  rw [hchars]
  exact parse?_text (.number (JsonNumber.readsBack_int hm))

namespace Store

variable {β γ : Type} [Backend β] [AtomicBackend β] [Backend γ] [AtomicBackend γ]

lemma increment_congr {s : Store β} {s' : Store γ} {var var' : VarId} {a a' : Amount}
    (hkey : var.key ≠ "") (hkey' : var'.key ≠ "") (hunused : s.locks.Unused)
    (hunused' : s'.locks.Unused) (hfault : s.fault? (.increment var a) = none)
    (hfault' : s'.fault? (.increment var' a') = none)
    (hfound : (valueOf (Backend.stored s.backend var)).bind Value.integer? =
      (valueOf (Backend.stored s'.backend var')).bind Value.integer?)
    (hdelta : a.delta = a'.delta) :
    (s.increment var a).1 = (s'.increment var' a').1 ∧
      Backend.stored (s.increment var a).2.backend var =
        Backend.stored (s'.increment var' a').2.backend var' := by
  obtain ⟨hreply, hstored⟩ := increment_of_success a hkey hunused hfault
  obtain ⟨hreply', hstored'⟩ := increment_of_success a' hkey' hunused' hfault'
  have htotal : Bindings.total (valueOf (Backend.stored s.backend var)) a.delta =
      Bindings.total (valueOf (Backend.stored s'.backend var')) a'.delta := by
    rw [Bindings.total, Bindings.total, hfound, hdelta]
  rw [hreply, hreply', hstored, hstored', if_pos rfl, if_pos rfl, htotal]
  exact ⟨rfl, rfl⟩

/-- One amount counts the same in every carrier.  An integer counts as itself, clamped to 64 bits,
and JSON reads it from its decimal notation.  A number up to `2 ^ 53`, and what is not finite,
counts the same as its text, and as a number in JSON where it can be one; and kept as a string or as
a number it is the same to add to, so that increments by amounts that count the same answer and
store the same. -/
theorem amounts_count_alike :
    (∀ m a, Carries m a → a.delta = clamp m) ∧
    (∀ m, JsonNumber.holdsInt m = true →
      Json.parse? (toString m).toList = some (.number (.int m))) ∧
    ∀ x : Double, (x.isFinite = true → |x.value| ≤ 2 ^ 53) →
      (Amount.text x.text).delta = (Amount.double x).delta ∧
      (x.isFinite = true → (Amount.json (.number (.double x))).delta = (Amount.double x).delta) ∧
      (Value.string x.text).integer? = (Value.number x).integer? ∧
      ∀ (s : Store β) (s' : Store γ) (var var' : VarId) (a a' : Amount),
        var.key ≠ "" → s.locks.Unused → s.fault? (.increment var a) = none →
        var'.key ≠ "" → s'.locks.Unused → s'.fault? (.increment var' a') = none →
        Backend.stored s.backend var = some (Value.number x).encode →
        Backend.stored s'.backend var' = some (Value.string x.text).encode →
        a.delta = a'.delta →
        (s.increment var a).1 = (s'.increment var' a').1 ∧
          Backend.stored (s.increment var a).2.backend var =
            Backend.stored (s'.increment var' a').2.backend var' := by
  refine ⟨fun m a => Carries.delta_eq, fun m => Json.parse?_toString, fun x hx => ?_⟩
  have htext : leadingInt? x.text = x.toInt64? := Double.leadingInt?_text hx
  refine ⟨congrArg (·.getD 0) htext, fun _ => rfl, htext, ?_⟩
  intro s s' var var' a a' hkey hunused hfault hkey' hunused' hfault' hfound hfound' hdelta
  refine increment_congr hkey hkey' hunused hunused' hfault hfault' ?_ hdelta
  rw [hfound, hfound', valueOf, valueOf, Option.bind_some, Option.bind_some, Value.decode_encode,
    Value.decode_encode]
  exact htext.symm

/-- The greatest double below `-2`. -/
def belowTwo : Double := .finite true (2 ^ 52 + 1) 1023 (by decide)

/-- A store with that number. -/
def numbered : Store Memory where
  backend.map := RawMap.empty.set ⟨.global, "n"⟩ (Value.number belowTwo).encode

/-- A store of another kind with the text of that number under another variable. -/
def worded : Store Host where
  backend.map := RawMap.empty.set ⟨⟨"p"⟩, "m"⟩ (Value.string belowTwo.text).encode

/-- The number and its text both add `-2`. -/
theorem amounts_count_alike_belowTwo :
    belowTwo.text = "-2.0000000000000004" ∧ |belowTwo.value| ≤ 2 ^ 53 ∧
      (numbered.increment ⟨.global, "n"⟩ (.uint32 7)).1 = .ok (.total 5) ∧
      (worded.increment ⟨⟨"p"⟩, "m"⟩ (.json (.string "7.9"))).1 = .ok (.total 5) ∧
      Backend.stored (worded.increment ⟨⟨"p"⟩, "m"⟩ (.json (.string "7.9"))).2.backend
        ⟨⟨"p"⟩, "m"⟩ = some "n:5" := by
  have hbound : |belowTwo.value| ≤ 2 ^ 53 := by
    rw [belowTwo, Double.abs_value, div_le_iff₀ (Nat.cast_pos.2 Double.unitsPerOne_pos)]
    have hunits : (2 ^ 52 + 1) * 2 ^ 1023 ≤ 2 ^ 53 * Double.unitsPerOne := by decide +kernel
    exact_mod_cast hunits
  obtain ⟨-, -, hdouble⟩ := amounts_count_alike (β := Memory) (γ := Host)
  obtain ⟨-, -, -, hstores⟩ := hdouble belowTwo fun _ => hbound
  obtain ⟨hreply, hstored⟩ := hstores numbered worded ⟨.global, "n"⟩ ⟨⟨"p"⟩, "m"⟩ (.uint32 7)
    (.json (.string "7.9")) (by decide) ⟨rfl, rfl⟩ (by decide +kernel) (by decide) ⟨rfl, rfl⟩
    (by decide +kernel) (by decide +kernel) (by decide +kernel) (by decide +kernel)
  have htotal : (numbered.increment ⟨.global, "n"⟩ (.uint32 7)).1 = .ok (.total 5) := by
    decide +kernel
  have hwritten : Backend.stored (numbered.increment ⟨.global, "n"⟩ (.uint32 7)).2.backend
      ⟨.global, "n"⟩ = some "n:5" := by
    decide +kernel
  exact ⟨by decide +kernel, hbound, htotal, hreply ▸ htotal, hstored ▸ hwritten⟩

end Store

end TypedVars
