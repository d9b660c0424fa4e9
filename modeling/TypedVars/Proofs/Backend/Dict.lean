import Mathlib.Data.List.Induction
import Mathlib.Data.List.Nodup
import Mathlib.Tactic.Lemma
import TypedVars.Backend.Dict

/-!
# Dictionaries by what is found in them

A dictionary is known by what is found under its keys (`Dict.ext_get?`), since its entries stand in
the one order that the keys have.  In the dictionary of some entries the last one of a key is found
(`Dict.get?_ofList_eq_lookup`, `LastEntry`), so it is the same as in the entries themselves where
every key has one of them (`Dict.get?_ofList`), and a dictionary can be made again from its entries
(`Dict.ofList_entries`).
-/

namespace TypedVars

namespace Dict

variable {α : Type} {d d' : Dict α} {es : List (String × α)} {key : String} {a : α}

lemma distinct (d : Dict α) : d.entries.Pairwise (·.1 ≠ ·.1) :=
  d.ascending.imp fun hlt => Std.ne_of_lt hlt

lemma nodup_keys (d : Dict α) : (d.entries.map Prod.fst).Nodup := List.pairwise_map.2 d.distinct

/-- The entries are the keys with what is found under them. -/
lemma mem_entries_iff : (key, a) ∈ d.entries ↔ d.get? key = some a :=
  ⟨fun h => lookup_of_mem d.nodup_keys h, mem_of_lookup⟩

/-- Where the same is found under every key, the entries are the same. -/
theorem ext_get? (h : ∀ key, d.get? key = d'.get? key) : d = d' := by
  have hmem : ∀ e, e ∈ d.entries ↔ e ∈ d'.entries := by
    rintro ⟨key, a⟩
    rw [mem_entries_iff, mem_entries_iff, h]
  have hnodup : ∀ d : Dict α, d.entries.Nodup := fun d =>
    List.Nodup.of_map Prod.fst d.nodup_keys
  have hperm : d.entries.Perm d'.entries :=
    (List.perm_ext_iff_of_nodup (hnodup d) (hnodup d')).2 hmem
  have hentries : d.entries = d'.entries := by
    refine hperm.eq_of_pairwise ?_ d.ascending d'.ascending
    intro e e' _ _ hlt hgt
    exact absurd (String.lt_trans hlt hgt) (String.lt_irrefl _)
  obtain ⟨es, hes⟩ := d
  obtain ⟨es', hes'⟩ := d'
  cases hentries
  rfl

lemma entries_ne_nil_iff : d.entries ≠ [] ↔ ∃ key a, d.get? key = some a := by
  constructor
  · intro h
    obtain ⟨⟨key, a⟩, he⟩ := List.exists_mem_of_ne_nil _ h
    exact ⟨key, a, mem_entries_iff.1 he⟩
  · rintro ⟨key, a, hget⟩ hnil
    rw [get?, hnil, List.lookup_nil] at hget
    cases hget

/-- To take a key out that is not there makes no difference. -/
lemma erase_of_absent (h : d.get? key = none) : d.erase key = d := by
  refine ext_get? fun other => ?_
  by_cases hkey : other = key
  · rw [hkey, get?_erase_self, h]
  · exact get?_erase_of_ne d hkey

/-- To give a key the value that it has makes no difference. -/
lemma insert_of_present (h : d.get? key = some a) : d.insert key a = d := by
  refine ext_get? fun other => ?_
  by_cases hkey : other = key
  · rw [hkey, get?_insert_self, h]
  · exact get?_insert_of_ne d hkey a

lemma ofList_concat (es : List (String × α)) (key : String) (a : α) :
    ofList (es ++ [(key, a)]) = (ofList es).insert key a := by
  rw [ofList, List.foldl_append]
  rfl

/-- In the dictionary of some entries the last one of a key is found. -/
theorem get?_ofList_eq_lookup (es : List (String × α)) (key : String) :
    (ofList es).get? key = es.reverse.lookup key := by
  induction es using List.reverseRecOn with
  | nil => rfl
  | append_singleton es e ih =>
    rw [ofList_concat, List.reverse_concat, List.lookup_cons, ← ih]
    by_cases hkey : key = e.1
    · rw [hkey, get?_insert_self, beq_self_eq_true]
    · rw [get?_insert_of_ne _ hkey, beq_false_of_ne hkey]

/-- What is found in a dictionary of entries with distinct keys. -/
theorem get?_ofList (h : es.Pairwise (·.1 ≠ ·.1)) (key : String) :
    (ofList es).get? key = es.lookup key := by
  have hnodup : (es.map Prod.fst).Nodup := List.pairwise_map.2 h
  have hreverse : (es.reverse.map Prod.fst).Nodup := by
    rwa [List.map_reverse, List.nodup_reverse]
  rw [get?_ofList_eq_lookup]
  refine Option.ext fun a => ⟨fun ha => ?_, fun ha => ?_⟩
  · exact lookup_of_mem hnodup (List.mem_reverse.1 (mem_of_lookup ha))
  · exact lookup_of_mem hreverse (List.mem_reverse.2 (mem_of_lookup ha))

/-- A dictionary is that of its entries. -/
theorem ofList_entries (d : Dict α) : ofList d.entries = d :=
  ext_get? fun key => get?_ofList d.distinct key

end Dict

/-! ## The last entry of a key -/

variable {α β : Type} {es : List (String × α)} {key : String} {a : α}

/-- The value of the last entry of a key. -/
def LastEntry (es : List (String × α)) (key : String) (a : α) : Prop :=
  ∃ before after, es = before ++ (key, a) :: after ∧ ∀ e ∈ after, e.1 ≠ key

lemma lookup_reverse_eq_some_iff : es.reverse.lookup key = some a ↔ LastEntry es key a := by
  rw [List.lookup_eq_some_iff]
  constructor
  · rintro ⟨after, before, hes, hafter⟩
    refine ⟨before.reverse, after.reverse, ?_, fun e he heq => ?_⟩
    · rw [← List.reverse_inj, hes]
      simp
    · simpa [heq] using hafter e (List.mem_reverse.1 he)
  · rintro ⟨before, after, rfl, hafter⟩
    refine ⟨after.reverse, before.reverse, by simp, fun e he => ?_⟩
    exact bne_iff_ne.2 (hafter e (List.mem_reverse.1 he)).symm

lemma lookup_map_snd (f : α → β) (es : List (String × α)) (key : String) :
    (es.map fun e => (e.1, f e.2)).lookup key = (es.lookup key).map f := by
  induction es with
  | nil => rfl
  | cons e es ih =>
    rw [List.map_cons, List.lookup_cons, List.lookup_cons, ih]
    cases key == e.1 <;> rfl

lemma lastEntry_map_iff {f : α → β} {b : β} :
    LastEntry (es.map fun e => (e.1, f e.2)) key b ↔ ∃ a, LastEntry es key a ∧ f a = b := by
  simp only [← lookup_reverse_eq_some_iff, ← List.map_reverse, lookup_map_snd,
    Option.map_eq_some_iff]

namespace Dict

lemma get?_ofList_eq_some_iff : (ofList es).get? key = some a ↔ LastEntry es key a := by
  rw [get?_ofList_eq_lookup, lookup_reverse_eq_some_iff]

/-- A dictionary has the keys of the entries that it was made of. -/
lemma isSome_get?_ofList_iff :
    ((ofList es).get? key).isSome = true ↔ key ∈ es.map Prod.fst := by
  rw [get?_ofList_eq_lookup, ← not_iff_not, Bool.not_eq_true, Option.isSome_eq_false_iff,
    Option.isNone_iff_eq_none, List.lookup_eq_none_iff, List.mem_map]
  constructor
  · rintro hnone ⟨e, he, rfl⟩
    simpa using hnone e (List.mem_reverse.2 he)
  · intro hnot e he
    exact bne_iff_ne.2 fun heq => hnot ⟨e, List.mem_reverse.1 he, heq.symm⟩

end Dict

end TypedVars
