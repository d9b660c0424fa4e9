/-!
# Looking up and leaving out

Lists of keys with values, in which the first entry of a key counts: what is found in them after the
entries of a key have been left out, and what is found where every key has one entry.
-/

namespace TypedVars

variable {κ α : Type} [BEq κ] [LawfulBEq κ] [DecidableEq κ]

/-- A key that is left out has no value. -/
theorem lookup_filter_self (key : κ) (es : List (κ × α)) :
    (es.filter (·.1 ≠ key)).lookup key = none := by
  induction es with
  | nil => rfl
  | cons first rest ih =>
    rw [List.filter_cons]
    split
    · next keeps =>
      have differs : first.1 ≠ key := of_decide_eq_true keeps
      rw [List.lookup_cons, beq_false_of_ne differs.symm, ih]
    · exact ih

/-- The other keys keep their values. -/
theorem lookup_filter_of_ne {key other : κ} (h : other ≠ key) (es : List (κ × α)) :
    (es.filter (·.1 ≠ key)).lookup other = es.lookup other := by
  induction es with
  | nil => rfl
  | cons first rest ih =>
    rw [List.filter_cons]
    split
    · rw [List.lookup_cons, List.lookup_cons, ih]
    · next goes =>
      have same : first.1 = key := by simpa using goes
      rw [List.lookup_cons, beq_false_of_ne (same ▸ h), ih]

/-- What is found under a key is one of the entries. -/
theorem mem_of_lookup {key : κ} {a : α} {es : List (κ × α)} (h : es.lookup key = some a) :
    (key, a) ∈ es := by
  induction es with
  | nil => simp at h
  | cons first rest ih =>
    by_cases here : key = first.1
    · rw [List.lookup_cons, here, beq_self_eq_true] at h
      rw [here, ← Option.some.inj h]
      exact List.mem_cons_self
    · rw [List.lookup_cons, beq_false_of_ne here] at h
      exact List.mem_cons_of_mem _ (ih h)

omit [DecidableEq κ] in
/-- Where every key has one entry, that entry is found. -/
theorem lookup_of_mem {key : κ} {a : α} {es : List (κ × α)} (distinct : (es.map Prod.fst).Nodup)
    (h : (key, a) ∈ es) : es.lookup key = some a := by
  induction es with
  | nil => simp at h
  | cons first rest ih =>
    have ⟨fresh, distinct⟩ := List.nodup_cons.1 distinct
    rcases List.mem_cons.1 h with rfl | h
    · exact List.lookup_cons_self
    · have later : key ≠ first.1 := fun e => fresh (List.mem_map.2 ⟨_, h, e⟩)
      rw [List.lookup_cons, beq_false_of_ne later]
      exact ih distinct h

end TypedVars
