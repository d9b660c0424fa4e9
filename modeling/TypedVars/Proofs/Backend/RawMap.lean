import Mathlib.Tactic.Common
import TypedVars.Backend.RawMap
import TypedVars.Proofs.Backend.Dict
import TypedVars.Proofs.Json.RoundTrip

/-!
# Raw maps by what is found in them, and in JSON

Two raw maps have *the same texts* (`RawMap.SameTexts`) when the same is found under every
variable.  Then they list the same in every scope and stay so under the same changes, whether or not
one of them also keeps a scope that has no key.

The JSON of a raw map is text that is read back (`RawMap.exact_toJson`), as a map it is the same one
again (`RawMap.ofJson?_toJson`), scopes without keys included.
-/

namespace TypedVars

namespace RawMap

variable {m m' : RawMap}

/-! ## Maps with the same texts -/

lemma get?_eq_some_iff {var : VarId} {raw : String} : m.get? var = some raw ↔
    ∃ vars, m.scopes.get? var.scope.name = some vars ∧ vars.get? var.key = some raw := by
  rw [get?, inScope]
  cases m.scopes.get? var.scope.name with
  | none => simp
  | some vars => simp

lemma get?_set (m : RawMap) (var other : VarId) (raw : String) :
    (m.set var raw).get? other = if other = var then some raw else m.get? other := by
  split
  · next heq => rw [heq, get?_set_self]
  · next hne => rw [get?_set_of_ne m hne]

lemma get?_unset (m : RawMap) (var other : VarId) :
    (m.unset var).get? other = if other = var then none else m.get? other := by
  split
  · next heq => rw [heq, get?_unset_self]
  · next hne => rw [get?_unset_of_ne m hne]

/-- The same is found in two maps under every variable. -/
def SameTexts (m m' : RawMap) : Prop := ∀ var, m.get? var = m'.get? var

lemma SameTexts.inScope (h : m.SameTexts m') (scope : Scope) : m.inScope scope = m'.inScope scope :=
  Dict.ext_get? fun key => h ⟨scope, key⟩

lemma SameTexts.set (h : m.SameTexts m') (var : VarId) (raw : String) :
    (m.set var raw).SameTexts (m'.set var raw) := by
  intro other
  rw [get?_set, get?_set, h]

lemma SameTexts.unset (h : m.SameTexts m') (var : VarId) :
    (m.unset var).SameTexts (m'.unset var) := by
  intro other
  rw [get?_unset, get?_unset, h]

/-- To remove what is not there changes no text. -/
lemma sameTexts_unset_of_get?_eq_none {var : VarId} (h : m.get? var = none) :
    m.SameTexts (m.unset var) := by
  intro other
  rw [get?_unset]
  split
  · next heq => rw [heq, h]
  · rfl

/-! ## Maps in JSON -/

/-- There is no number in the JSON of a map, so nothing in it is hard to read back. -/
lemma exact_toJson (m : RawMap) : m.toJson.Exact := by
  refine .object fun member hmember => ?_
  obtain ⟨scope, -, rfl⟩ := List.mem_map.1 hmember
  refine .object fun member hmember => ?_
  obtain ⟨entry, -, rfl⟩ := List.mem_map.1 hmember
  exact .string _

/-- Entries that are turned into others and back, one by one. -/
lemma mapM_map_eq_some {α β : Type} {f : α → β} {g : β → Option α} (h : ∀ a, g (f a) = some a)
    (as : List α) : (as.map f).mapM g = some as := by
  have hself : g ∘ f = fun a => pure a := funext h
  rw [List.mapM_map, hself, List.mapM_pure, List.map_id']
  rfl

lemma varsOfJson?_object (vars : Dict String) :
    varsOfJson? (.object (vars.entries.map fun (key, raw) => (key, .string raw))) = some vars := by
  rw [varsOfJson?, mapM_map_eq_some]
  · exact congrArg some (Dict.ofList_entries vars)
  · exact fun _ => rfl

/-- The JSON of a map is read as that map. -/
theorem ofJson?_toJson (m : RawMap) : ofJson? m.toJson = some m := by
  have hscope : ∀ e : String × Dict String, (varsOfJson? (.object (e.2.entries.map
      fun (key, raw) => (key, .string raw)))).map (e.1, ·) = some e := by
    intro e
    rw [varsOfJson?_object, Option.map_some]
  rw [toJson, ofJson?, mapM_map_eq_some hscope]
  exact congrArg (some ∘ RawMap.mk) (Dict.ofList_entries m.scopes)

end RawMap

end TypedVars
