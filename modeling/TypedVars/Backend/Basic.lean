import TypedVars.Error

/-!
# Backends

The store keeps its variables in a backend, which knows texts only.  Four calls are all it may rely
on, and each is one indivisible step that may fail; nothing is known about what happens between two
of them.
-/

namespace TypedVars

/-- The kinds of backend that a store can be configured with. -/
inductive BackendKind where
  | memory
  | file
  deriving DecidableEq, Repr

/-- Storage of texts.  A call answers and leaves a new state, also when it fails. -/
class Backend (β : Type) where
  /-- The text of a variable. -/
  get : VarId → β → Except StoreError (Option String) × β
  /-- Stores a text under a variable. -/
  set : VarId → String → β → Except StoreError Unit × β
  /-- Removes a variable; one that is not there is no failure. -/
  unset : VarId → β → Except StoreError Unit × β
  /-- The keys of a scope with their texts, in ascending order. -/
  entries : Scope → β → Except StoreError (List (String × String)) × β
  /-- The text that stands under a variable, seen from outside. -/
  stored : β → VarId → Option String

end TypedVars
