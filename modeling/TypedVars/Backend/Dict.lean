import TypedVars.Lookup

/-!
# Dictionaries in key order

A dictionary maps texts to values and lists its entries in ascending order of the keys, which for
texts is the order of their code points and so of their UTF-8 bytes.  The order is part of the type:
each operation below returns an ordered list because it is given one.
-/

namespace TypedVars

/-- A dictionary from texts, in ascending order of its keys. -/
structure Dict (α : Type) where
  entries : List (String × α)
  ascending : entries.Pairwise (·.1 < ·.1)
  deriving DecidableEq

namespace Dict

variable {α : Type}

/-- The entries after a key is given a value. -/
def putEntry (key : String) (a : α) : List (String × α) → List (String × α)
  | [] => [(key, a)]
  | e :: rest =>
    if key < e.1 then (key, a) :: e :: rest
    else if key = e.1 then (key, a) :: rest
    else e :: putEntry key a rest

/-- A key after an insertion is the new one or was there before. -/
theorem key_of_mem_putEntry {key : String} {a : α} {e : String × α} {es : List (String × α)}
    (h : e ∈ putEntry key a es) : e.1 = key ∨ e ∈ es := by
  induction es with
  | nil =>
    rw [putEntry, List.mem_singleton] at h
    exact .inl (congrArg Prod.fst h)
  | cons first rest ih =>
    rw [putEntry] at h
    split at h
    · exact (List.mem_cons.1 h).imp (congrArg Prod.fst) id
    · split at h
      · exact (List.mem_cons.1 h).imp (congrArg Prod.fst) (List.mem_cons_of_mem _)
      · rcases List.mem_cons.1 h with rfl | h
        · exact .inr List.mem_cons_self
        · exact (ih h).imp id (List.mem_cons_of_mem _)

/-- An insertion keeps the order. -/
theorem pairwise_putEntry {key : String} {a : α} {es : List (String × α)}
    (h : es.Pairwise (·.1 < ·.1)) : (putEntry key a es).Pairwise (·.1 < ·.1) := by
  induction es with
  | nil => exact List.pairwise_singleton _ _
  | cons first rest ih =>
    have ⟨above, tail⟩ := List.pairwise_cons.1 h
    rw [putEntry]
    split
    · next lower =>
      refine List.pairwise_cons.2 ⟨fun e he => ?_, h⟩
      rcases List.mem_cons.1 he with rfl | he
      · exact lower
      · exact String.lt_trans lower (above e he)
    · next notLower =>
      split
      · next same => exact List.pairwise_cons.2 ⟨fun e he => same ▸ above e he, tail⟩
      · next differs =>
        refine List.pairwise_cons.2 ⟨fun e he => ?_, ih tail⟩
        rcases key_of_mem_putEntry he with new | old
        · rw [new]
          exact Std.not_le.1 fun le => differs (Std.le_antisymm le (Std.not_lt.1 notLower))
        · exact above e old

/-- The new value is found under its key. -/
theorem lookup_putEntry_self (key : String) (a : α) (es : List (String × α)) :
    (putEntry key a es).lookup key = some a := by
  induction es with
  | nil => rw [putEntry, List.lookup_cons_self]
  | cons first rest ih =>
    rw [putEntry]
    split
    · exact List.lookup_cons_self
    · split
      · exact List.lookup_cons_self
      · next differs => rw [List.lookup_cons, beq_false_of_ne differs, ih]

/-- The other keys keep their values. -/
theorem lookup_putEntry_of_ne {key other : String} (h : other ≠ key) (a : α)
    (es : List (String × α)) : (putEntry key a es).lookup other = es.lookup other := by
  induction es with
  | nil => rw [putEntry, List.lookup_cons, beq_false_of_ne h]
  | cons first rest ih =>
    rw [putEntry]
    split
    · rw [List.lookup_cons, beq_false_of_ne h]
    · split
      · next same =>
        rw [List.lookup_cons, List.lookup_cons, beq_false_of_ne h, beq_false_of_ne (same ▸ h)]
      · rw [List.lookup_cons, List.lookup_cons, ih]

/-- The dictionary without entries. -/
def empty : Dict α := ⟨[], .nil⟩

/-- The value of a key. -/
def get? (d : Dict α) (key : String) : Option α := d.entries.lookup key

/-- Gives a key a value, in place of the one that it has. -/
def insert (d : Dict α) (key : String) (a : α) : Dict α :=
  ⟨putEntry key a d.entries, pairwise_putEntry d.ascending⟩

/-- Takes a key out. -/
def erase (d : Dict α) (key : String) : Dict α :=
  ⟨d.entries.filter (·.1 ≠ key), d.ascending.filter _⟩

/-- Whether there is no entry. -/
def isEmpty (d : Dict α) : Bool := d.entries.isEmpty

/-- The number of entries. -/
def size (d : Dict α) : Nat := d.entries.length

/-- The dictionary of some entries, of which the last one of a key counts. -/
def ofList (es : List (String × α)) : Dict α := es.foldl (fun d (key, a) => d.insert key a) empty

/-! ### What is found after each operation -/

@[simp]
theorem get?_empty (key : String) : (empty : Dict α).get? key = none := rfl

@[simp]
theorem get?_insert_self (d : Dict α) (key : String) (a : α) :
    (d.insert key a).get? key = some a := lookup_putEntry_self key a d.entries

theorem get?_insert_of_ne (d : Dict α) {key other : String} (h : other ≠ key) (a : α) :
    (d.insert key a).get? other = d.get? other := lookup_putEntry_of_ne h a d.entries

@[simp]
theorem get?_erase_self (d : Dict α) (key : String) : (d.erase key).get? key = none :=
  lookup_filter_self key d.entries

theorem get?_erase_of_ne (d : Dict α) {key other : String} (h : other ≠ key) :
    (d.erase key).get? other = d.get? other := lookup_filter_of_ne h d.entries

theorem get?_of_isEmpty {d : Dict α} (h : d.isEmpty) (key : String) : d.get? key = none := by
  rw [get?, List.isEmpty_iff.1 h, List.lookup_nil]

end Dict

end TypedVars
