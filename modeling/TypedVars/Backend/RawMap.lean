import TypedVars.Backend.Dict
import TypedVars.Json.Basic
import TypedVars.Scope

/-!
# Stored texts by scope and key

What a backend keeps is a dictionary of scopes, each with a dictionary of keys.  A scope comes into
being with its first key and goes with its last one; a scope without keys can only have been read
from a document, and the first removal in it clears it.
-/

namespace TypedVars

/-- The stored texts of all variables. -/
structure RawMap where
  scopes : Dict (Dict String)
  deriving DecidableEq

namespace RawMap

/-- Nothing stored. -/
def empty : RawMap := ⟨.empty⟩

/-- The keys of a scope with their texts. -/
def inScope (m : RawMap) (scope : Scope) : Dict String := (m.scopes.get? scope.name).getD .empty

/-- The text of a variable. -/
def get? (m : RawMap) (var : VarId) : Option String := (m.inScope var.scope).get? var.key

/-- Stores a text. -/
def set (m : RawMap) (var : VarId) (raw : String) : RawMap :=
  ⟨m.scopes.insert var.scope.name ((m.inScope var.scope).insert var.key raw)⟩

/-- Removes a variable, and its scope with the last of its keys. -/
def unset (m : RawMap) (var : VarId) : RawMap :=
  match m.scopes.get? var.scope.name with
  | none => m
  | some vars =>
    let rest := vars.erase var.key
    if rest.isEmpty then ⟨m.scopes.erase var.scope.name⟩ else ⟨m.scopes.insert var.scope.name rest⟩

/-- The map as JSON: an object of objects of strings. -/
def toJson (m : RawMap) : Json :=
  .object (m.scopes.entries.map fun (scope, vars) =>
    (scope, .object (vars.entries.map fun (key, raw) => (key, .string raw))))

/-- The keys of one scope of a document. -/
def varsOfJson? : Json → Option (Dict String)
  | .object members => do
    let vars ← members.mapM fun (key, j) =>
      match j with
      | .string raw => some (key, raw)
      | _ => none
    some (.ofList vars)
  | _ => none

/-- The map of a document: an object of objects of strings, in which the last member of a name
counts. -/
def ofJson? : Json → Option RawMap
  | .object members => do
    let scopes ← members.mapM fun (scope, j) => (varsOfJson? j).map (scope, ·)
    some ⟨.ofList scopes⟩
  | _ => none

/-! ### What is found after each operation -/

@[simp]
theorem get?_empty (var : VarId) : empty.get? var = none := rfl

/-- The keys of the scope in which a text is stored. -/
theorem inScope_set_self (m : RawMap) (var : VarId) (raw : String) :
    (m.set var raw).inScope var.scope = (m.inScope var.scope).insert var.key raw := by
  rw [inScope, set, Dict.get?_insert_self, Option.getD_some]

/-- The keys of the other scopes stay. -/
theorem inScope_set_of_ne (m : RawMap) {var : VarId} {scope : Scope}
    (h : scope.name ≠ var.scope.name) (raw : String) :
    (m.set var raw).inScope scope = m.inScope scope := by
  rw [inScope, set, Dict.get?_insert_of_ne _ h, inScope]

@[simp]
theorem get?_set_self (m : RawMap) (var : VarId) (raw : String) :
    (m.set var raw).get? var = some raw := by
  rw [get?, inScope_set_self, Dict.get?_insert_self]

theorem get?_set_of_ne (m : RawMap) {var other : VarId} (h : other ≠ var) (raw : String) :
    (m.set var raw).get? other = m.get? other := by
  by_cases sameScope : other.scope.name = var.scope.name
  · have scopes : other.scope = var.scope := Scope.ext sameScope
    have keys : other.key ≠ var.key := fun k => h (VarId.ext scopes k)
    rw [get?, get?, scopes, inScope_set_self, Dict.get?_insert_of_ne _ keys]
  · rw [get?, get?, inScope_set_of_ne m sameScope]

/-- What is found in a scope after a key of it is removed. -/
theorem inScope_unset_self (m : RawMap) (var : VarId) (key : String) :
    ((m.unset var).inScope var.scope).get? key =
      ((m.inScope var.scope).erase var.key).get? key := by
  rw [unset]
  split
  · next missing => rw [inScope, missing, Option.getD_none]; rfl
  · next vars found =>
    have here : m.inScope var.scope = vars := by rw [inScope, found, Option.getD_some]
    dsimp only
    split
    · next nothingLeft =>
      rw [inScope, Dict.get?_erase_self, Option.getD_none, Dict.get?_empty, here,
        Dict.get?_of_isEmpty nothingLeft]
    · rw [inScope, Dict.get?_insert_self, Option.getD_some, here]

/-- The keys of the other scopes stay. -/
theorem inScope_unset_of_ne (m : RawMap) {var : VarId} {scope : Scope}
    (h : scope.name ≠ var.scope.name) : (m.unset var).inScope scope = m.inScope scope := by
  rw [unset]
  split
  · rfl
  · dsimp only
    split
    · rw [inScope, Dict.get?_erase_of_ne _ h, inScope]
    · rw [inScope, Dict.get?_insert_of_ne _ h, inScope]

@[simp]
theorem get?_unset_self (m : RawMap) (var : VarId) : (m.unset var).get? var = none := by
  rw [get?, inScope_unset_self, Dict.get?_erase_self]

theorem get?_unset_of_ne (m : RawMap) {var other : VarId} (h : other ≠ var) :
    (m.unset var).get? other = m.get? other := by
  by_cases sameScope : other.scope.name = var.scope.name
  · have scopes : other.scope = var.scope := Scope.ext sameScope
    have keys : other.key ≠ var.key := fun k => h (VarId.ext scopes k)
    rw [get?, get?, scopes, inScope_unset_self, Dict.get?_erase_of_ne _ keys]
  · rw [get?, get?, inScope_unset_of_ne m sameScope]

end RawMap

end TypedVars
