import TypedVars.Json.Basic

/-!
# Scopes and variables

A scope is a namespace known by its name alone.  A variable is addressed by a key in a scope, and
two addresses are the same only when both parts are: neither part is ever joined to the other.
-/

namespace TypedVars

/-- A namespace of keys. -/
@[ext]
structure Scope where
  name : String
  deriving DecidableEq, Repr

/-- The address of a variable. -/
@[ext]
structure VarId where
  scope : Scope
  key : String
  deriving DecidableEq, Repr

namespace Scope

/-- The scope that callers mean when they name none. -/
def global : Scope := ⟨"global"⟩

/-- Scopes are ordered by the bytes of their names, which is the order of the code points. -/
def compare (a b : Scope) : Ordering :=
  if a.name < b.name then .lt else if a.name = b.name then .eq else .gt

/-- A scope in JSON is its name. -/
def toJson (s : Scope) : Json := .string s.name

/-- Only a string is a scope. -/
def ofJson? : Json → Option Scope
  | .string name => some ⟨name⟩
  | _ => none

end Scope

end TypedVars
