import TypedVars.Proofs.Number.Notation
import TypedVars.Text.Blank

/-!
# What is left without outer white space

A text can be taken apart in one way only as white space, a part that neither begins nor ends with
white space, and white space again (`Trimmed`).  To trim a text is to find that part
(`trim_eq_iff`); so trimming twice is trimming once, and what has no outer white space stays as it
is (`Trimmed.self`).
-/

namespace TypedVars

/-- A part of a text that has only white space around it and none at its own ends. -/
structure Trimmed (cs part : List Char) : Prop where
  around : ∃ left right, cs = left ++ (part ++ right) ∧ (∀ c ∈ left, isBlank c = true) ∧
    ∀ c ∈ right, isBlank c = true
  first : ∀ c ∈ part.head?, isBlank c = false
  last : ∀ c ∈ part.getLast?, isBlank c = false

variable {cs part : List Char}

lemma not_blank_of_mem_head? {ds : List Char} {c : Char} (hc : c ∈ (ds.dropWhile isBlank).head?) :
    isBlank c = false := by
  have hhead := List.head?_dropWhile_not isBlank ds
  rw [Option.mem_def.1 hc] at hhead
  simpa using hhead

lemma trimStart_eq_append (cs : List Char) :
    ∃ left, cs = left ++ trimStart cs ∧ ∀ c ∈ left, isBlank c = true :=
  ⟨cs.takeWhile isBlank, List.takeWhile_append_dropWhile.symm, fun _ hc => List.mem_takeWhile_imp hc⟩

lemma trimEnd_eq_append (cs : List Char) :
    ∃ right, cs = trimEnd cs ++ right ∧ ∀ c ∈ right, isBlank c = true := by
  refine ⟨(cs.reverse.takeWhile isBlank).reverse, ?_, fun c hc => ?_⟩
  · rw [trimEnd, ← List.reverse_append, List.takeWhile_append_dropWhile, List.reverse_reverse]
  · exact List.mem_takeWhile_imp (List.mem_reverse.1 hc)

lemma trimmed_trim (cs : List Char) : Trimmed cs (trim cs) := by
  obtain ⟨left, hleft, hblank⟩ := trimStart_eq_append cs
  obtain ⟨right, hright, hblank'⟩ := trimEnd_eq_append (trimStart cs)
  refine ⟨⟨left, right, ?_, hblank, hblank'⟩, fun c hc => ?_, fun c hc => ?_⟩
  · rw [trim, ← hright, ← hleft]
  · -- what is first in the end is first before the end is cut off
    have hhead : c ∈ (trimStart cs).head? := by
      obtain ⟨ds, hds⟩ := List.head?_eq_some_iff.1 (Option.mem_def.1 hc)
      rw [trim] at hds
      rw [hright, hds]
      rfl
    exact not_blank_of_mem_head? hhead
  · rw [trim, trimEnd, List.getLast?_reverse] at hc
    exact not_blank_of_mem_head? hc

lemma Trimmed.trim_eq (h : Trimmed cs part) : trim cs = part := by
  obtain ⟨⟨left, right, rfl, hleft, hright⟩, hfirst, hlast⟩ := h
  by_cases hpart : part = []
  · subst hpart
    have hall : ∀ c ∈ left ++ ([] ++ right), isBlank c = true := by
      intro c hc
      exact (List.mem_append.1 hc).elim (hleft c) (hright c)
    rw [trim, trimStart, List.dropWhile_eq_nil_iff.2 hall]
    rfl
  · have hstart : trimStart (left ++ (part ++ right)) = part ++ right := by
      refine dropWhile_append_of_head hleft fun c hc => hfirst c ?_
      rwa [List.head?_append_of_ne_nil _ hpart] at hc
    have hend : (right.reverse ++ part.reverse).dropWhile isBlank = part.reverse := by
      refine dropWhile_append_of_head (fun c hc => hright c (List.mem_reverse.1 hc)) fun c hc => ?_
      rw [List.head?_reverse] at hc
      exact hlast c hc
    rw [trim, hstart, trimEnd, List.reverse_append, hend, List.reverse_reverse]

/-- To trim a text is to find the part that has only white space around it. -/
theorem trim_eq_iff : trim cs = part ↔ Trimmed cs part :=
  ⟨fun h => h ▸ trimmed_trim cs, Trimmed.trim_eq⟩

lemma Trimmed.self (h : Trimmed cs part) : Trimmed part part :=
  ⟨⟨[], [], by simp, by simp, by simp⟩, h.first, h.last⟩

lemma trimmed_of_not_blank (h : ∀ c ∈ cs, isBlank c = false) : Trimmed cs cs :=
  ⟨⟨[], [], by simp, by simp, by simp⟩, fun c hc => h c (List.mem_of_mem_head? hc),
    fun c hc => h c (List.mem_of_getLast? hc)⟩

lemma not_blank_of_all {c : Char} (h : cs.all (fun c => !isBlank c) = true) (hc : c ∈ cs) :
    isBlank c = false := by
  have hnot := List.all_eq_true.1 h c hc
  rwa [Bool.not_eq_true'] at hnot

/-- A text is nothing but white space just when nothing is left of it. -/
lemma trimmed_nil_iff : Trimmed cs [] ↔ ∀ c ∈ cs, isBlank c = true := by
  constructor
  · rintro ⟨⟨left, right, rfl, hleft, hright⟩, -, -⟩ c hc
    exact (List.mem_append.1 hc).elim (hleft c) (hright c)
  · exact fun h => ⟨⟨cs, [], by simp, h, by simp⟩, by simp, by simp⟩

/-! ## Strings -/

lemma trimText_eq_iff {s t : String} : trimText s = t ↔ Trimmed s.toList t.toList := by
  rw [← trim_eq_iff, trimText, ← String.toList_inj, String.toList_ofList]

/-- Trimming twice is trimming once. -/
lemma trimText_trimText (s : String) : trimText (trimText s) = trimText s :=
  trimText_eq_iff.2 (trimText_eq_iff.1 rfl).self

end TypedVars
