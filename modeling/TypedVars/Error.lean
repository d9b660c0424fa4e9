import TypedVars.Scope
import TypedVars.Text.Quoted
import TypedVars.Text.Elapsed

/-!
# Failures

What can go wrong in a call on the store, by cause, with one message for each cause.
-/

namespace TypedVars

/-- The causes of a failed call. -/
inductive StoreError where
  /-- A JSON value of a kind that variables do not have. -/
  | unsupportedKind (kind : String)
  /-- Stored text that is not the form of any value. -/
  | undecodable (raw : String)
  /-- The lock of a variable was not free within the time limit, in milliseconds. -/
  | lockTimeout (var : VarId) (limit : Nat)
  /-- The empty key. -/
  | emptyKey
  /-- The backend failed; the detail is known when the backend gave one. -/
  | backend (detail : Option String)
  /-- A call that the backend does not have. -/
  | unsupported (call : String)
  deriving DecidableEq, Repr

namespace StoreError

/-- The message of a failure; the text of a backend's own failure may be unknown. -/
def message? : StoreError → Option String
  | .unsupportedKind kind =>
    some ("cannot encode value of type " ++ kind ++
      ": only number, string and boolean are supported")
  | .undecodable raw => some ("cannot decode stored value " ++ quote raw)
  | .lockTimeout var limit =>
    some ("lock on " ++ quote var.key ++ " in scope " ++ quote var.scope.name ++
      " not acquired within " ++ elapsedText limit)
  | .emptyKey => some "key must not be empty"
  | .backend (some detail) => some ("backend error: " ++ detail)
  | .backend none => none
  | .unsupported call => some ("backend does not support " ++ call)

end StoreError

end TypedVars
