import TypedVars.Store.Locked

/-!
# Calls

Every call on a store, as a value.
-/

namespace TypedVars

/-- A call on a store. -/
inductive Call where
  | get (var : VarId)
  | set (var : VarId) (v : Option Value)
  | setJson (var : VarId) (j : Json)
  | unset (var : VarId)
  | isSet (var : VarId)
  | increment (var : VarId) (amount : Amount)
  | update (var : VarId) (f : Option Value → Option Value)
  | dump (scope : Scope) (lead : String)
  | dumpJson (scope : Scope) (lead : String)

namespace Call

/-- The variable that a call addresses, unless it lists a scope. -/
def var? : Call → Option VarId
  | get var | set var _ | setJson var _ | unset var | isSet var | increment var _ | update var _ =>
    some var
  | dump .. | dumpJson .. => none

/-- The work of a call that needs the lock of a variable; without a key there is none to do. -/
def job? : Call → Option (VarId × Job)
  | increment var amount => if var.key = "" then none else some (var, .increment amount.delta)
  | update var f => if var.key = "" then none else some (var, .update f)
  | _ => none

/-- Whether a call without a lock reads a variable. -/
def isRead : Call → Bool
  | get var | isSet var => var.key ≠ ""
  | _ => false

end Call

namespace Store

variable {β : Type} [Backend β]

/-- Makes a call. -/
def call (s : Store β) : Call → Reply × Store β
  | .get var => s.get var
  | .set var v => s.set var v
  | .setJson var j => s.setJson var j
  | .unset var => s.unset var
  | .isSet var => s.isSet var
  | .increment var amount => s.increment var amount
  | .update var f => s.update var f
  | .dump scope lead => s.dump scope lead
  | .dumpJson scope lead => s.dumpJson scope lead

/-- Makes some calls, one after another. -/
def calls (s : Store β) : List Call → List Reply × Store β
  | [] => ([], s)
  | c :: rest =>
    let (r, s) := s.call c
    let (rs, s) := s.calls rest
    (r :: rs, s)

end Store

end TypedVars
