import TypedVars.Backend.Basic
import TypedVars.Backend.RawMap

/-!
# A host's backend

A host may bring its own storage.  This one has the three calls on single variables and no listing,
and it can be told to refuse one of the calls: a refused call fails with the given cause before it
does anything.
-/

namespace TypedVars

/-- The calls that a host can refuse. -/
inductive RawCall where
  | get
  | set
  | unset
  deriving DecidableEq

/-- A call that is refused, and the failure that it answers. -/
structure Fault where
  call : RawCall
  cause : StoreError

/-- A host's own storage. -/
structure Host where
  map : RawMap := .empty
  fault : Option Fault := none

namespace Host

/-- The failure that a call answers, while it is refused. -/
def refusal? (b : Host) (call : RawCall) : Option StoreError :=
  (b.fault.filter (·.call = call)).map (·.cause)

instance : Backend Host where
  get var b :=
    match b.refusal? .get with
    | some cause => (.error cause, b)
    | none => (.ok (b.map.get? var), b)
  set var raw b :=
    match b.refusal? .set with
    | some cause => (.error cause, b)
    | none => (.ok (), { b with map := b.map.set var raw })
  unset var b :=
    match b.refusal? .unset with
    | some cause => (.error cause, b)
    | none => (.ok (), { b with map := b.map.unset var })
  entries _ b := (.error (.unsupported "listing entries"), b)
  stored b var := b.map.get? var

end Host

end TypedVars
