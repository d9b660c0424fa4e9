import Mathlib.Data.List.Basic
import Mathlib.Tactic.Common

/-!
# Places among the entries that are kept

When some entries of a list are left out, one that stays moves forward to a new place: the number of
those before it that stay, `List.countPBefore`.  It is found there, the entries that stay keep their
order, and a change to one of them can be made before the others are left out or afterwards.
-/

namespace TypedVars

variable {α β : Type} {keep : α → Bool} {l : List α} {i j k : Nat} {a b : α}

lemma getElem?_kept (ha : l[i]? = some a) (hkeep : keep a = true) :
    (l.filter keep)[l.countPBefore keep i]? = some a := by
  induction l generalizing i with
  | nil => cases ha
  | cons first rest ih =>
    cases i with
    | zero =>
      cases ha
      rw [List.countPBefore_zero, List.filter_cons_of_pos hkeep]
      rfl
    | succ i =>
      have hrest := ih (i := i) ha
      rw [List.countPBefore_cons_succ]
      cases hfirst : keep first with
      | true => simpa [hfirst] using hrest
      | false => simpa [hfirst] using hrest

/-- What is found at a place when the others are left out is an entry that stays, and the place is
its new one.  Tickets are places, so this is how one who is left is traced back to where it was. -/
lemma exists_kept (ha : (l.filter keep)[k]? = some a) :
    ∃ i, l[i]? = some a ∧ keep a = true ∧ l.countPBefore keep i = k := by
  have hk : k < l.countP keep := by
    rw [List.countP_eq_length_filter]
    exact (List.getElem?_eq_some_iff.1 ha).1
  have hlt : l.findIdxNth keep k < l.length := List.findIdxNth_lt_length_iff.2 hk
  have hplace : l.countPBefore keep (l.findIdxNth keep k) = k :=
    List.countPBefore_findIdxNth_of_lt_countP hk
  have hkeep : keep l[l.findIdxNth keep k] = true := List.pos_findIdxNth_getElem
  have hfound := getElem?_kept (List.getElem?_eq_getElem hlt) hkeep
  rw [hplace, ha] at hfound
  rw [← Option.some.inj hfound] at hkeep
  exact ⟨_, by rw [List.getElem?_eq_getElem hlt, hfound], hkeep, hplace⟩

lemma kept_inj (ha : l[i]? = some a) (hkeep : keep a = true) (hb : l[j]? = some b)
    (hkeep' : keep b = true) (h : l.countPBefore keep i = l.countPBefore keep j) : i = j := by
  obtain ⟨hi, rfl⟩ := List.getElem?_eq_some_iff.1 ha
  obtain ⟨hj, rfl⟩ := List.getElem?_eq_some_iff.1 hb
  rw [← List.findIdxNth_countPBefore_of_lt_length_of_pos hkeep, h,
    List.findIdxNth_countPBefore_of_lt_length_of_pos hkeep']

/-- A change to an entry that stays is a change at its new place. -/
lemma filter_set_kept (ha : l[i]? = some a) (hkeep : keep a = true) (hkeep' : keep b = true) :
    (l.set i b).filter keep = (l.filter keep).set (l.countPBefore keep i) b := by
  induction l generalizing i with
  | nil => cases ha
  | cons first rest ih =>
    cases i with
    | zero =>
      cases ha
      simp [hkeep, hkeep']
    | succ i =>
      have hrest := ih (i := i) ha
      rw [List.countPBefore_cons_succ]
      cases hfirst : keep first with
      | true => simp [hfirst, hrest]
      | false => simp [hfirst, hrest]

lemma filter_set_left (ha : l[i]? = some a) (hleave : keep a = false) (hleave' : keep b = false) :
    (l.set i b).filter keep = l.filter keep := by
  induction l generalizing i with
  | nil => cases ha
  | cons first rest ih =>
    cases i with
    | zero =>
      cases ha
      simp [hleave, hleave']
    | succ i =>
      have hrest := ih (i := i) ha
      rw [List.set_cons_succ, List.filter_cons, List.filter_cons, hrest]

lemma countPBefore_map (f : β → α) (keep : α → Bool) (l : List β) (i : Nat) :
    (l.map f).countPBefore keep i = l.countPBefore (keep ∘ f) i := by
  rw [List.countPBefore_eq_countP_take, List.countPBefore_eq_countP_take, ← List.map_take,
    List.countP_map]

end TypedVars
