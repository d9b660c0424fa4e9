import TypedVars.Backend.Basic
import TypedVars.Log.Basic
import TypedVars.Value.Basic

/-!
# Counters and events

The store tells its operators two things about what it does: counters that only grow, and events for
the log.  They are kept apart, since counting something and reporting it are two acts: whether the
counters and the events tell the same story is a fact about the store and not about this module.
-/

namespace TypedVars

/-- How often something has happened. -/
structure Counters where
  /-- Increments that answered a value. -/
  increments : Nat := 0
  /-- Stored values that an increment replaced because they have no integer. -/
  resets : Nat := 0
  /-- Locks that were not free in time. -/
  lockTimeouts : Nat := 0
  /-- Stored texts that a reader could not decode. -/
  decodeErrors : Nat := 0
  /-- Locks that were granted, each after a wait that may be none. -/
  lockWaits : Nat := 0
  deriving DecidableEq, Repr

/-- What the log is told. -/
inductive Event where
  /-- A store was built from a configuration. -/
  | ready (backend : BackendKind) (limit : Nat)
  /-- A document with some number of scopes was opened. -/
  | opened (scopes : Nat)
  /-- A reader found a text that it could not decode. -/
  | undecodable (var : VarId) (raw : String)
  /-- A locked call took an undecodable text for nothing. -/
  | discarded (var : VarId) (raw : String)
  /-- A listing left an undecodable text out. -/
  | skipped (var : VarId) (raw : String)
  /-- An increment replaced a value that has no integer. -/
  | reset (var : VarId) (delta : Int)
  /-- An increment answered a value. -/
  | incremented (var : VarId) (delta value : Int)
  /-- A lock was granted. -/
  | lockAcquired (var : VarId)
  /-- A lock was not free in time. -/
  | lockTimedOut (var : VarId) (limit : Nat)
  deriving DecidableEq

namespace Event

/-- The part of the program that an event comes from. -/
def origin : Event → String
  | lockAcquired _ | lockTimedOut .. => "store::locks"
  | opened _ => "store::backend::json_file"
  | _ => "store::store"

/-- How severe an event is. -/
def level : Event → Level
  | ready .. => .info
  | undecodable .. | discarded .. | skipped .. | lockTimedOut .. => .warn
  | opened _ | reset .. | incremented .. | lockAcquired _ => .debug

/-- What the log says of an event. -/
def message : Event → String
  | ready .. => "typed store ready"
  | opened _ => "opened json file backend"
  | undecodable .. => "stored value is not decodable"
  | discarded .. => "discarding undecodable value"
  | skipped .. => "skipping undecodable entry in dump"
  | reset .. => "current value is not numeric; resetting to delta"
  | incremented .. => "incremented"
  | lockAcquired _ => "lock acquired"
  | lockTimedOut .. => "lock acquisition timed out"

/-- The fields that name a variable. -/
def varFields (var : VarId) : List (String × Field) :=
  [("key", .quoted var.key), ("scope", .plain var.scope.name)]

/-- The field with the message of an undecodable text. -/
def errorField (raw : String) : String × Field :=
  ("error", .plain (((StoreError.undecodable raw).message?).getD ""))

/-- The name of a kind of backend in the log. -/
def backendName : BackendKind → String
  | .memory => "Memory"
  | .file => "File"

/-- The fields of an event, in the order of the log. -/
def fields : Event → List (String × Field)
  | ready backend limit =>
    [("backend", .plain (backendName backend)), ("lock_timeout_ms", .number limit)]
  | opened scopes => [("scopes", .number scopes)]
  | undecodable var raw => varFields var ++ [errorField raw]
  | discarded var raw => varFields var ++ [("raw", .plain raw)]
  | skipped var raw =>
    [("key", .plain var.key), ("scope", .plain var.scope.name), errorField raw]
  | reset var delta => varFields var ++ [("delta", .number delta)]
  | incremented var delta value =>
    varFields var ++ [("delta", .number delta), ("value", .number value)]
  | lockAcquired var => varFields var
  | lockTimedOut var limit => varFields var ++ [("timeout_ms", .number limit)]

/-- The names that a filter may ask for: the message is a field too, and the path of a document is
one that the log leaves out. -/
def fieldNames (e : Event) : List String :=
  match e with
  | opened _ => ["message", "path", "scopes"]
  | _ => "message" :: e.fields.map Prod.fst

end Event

/-- The counters, and the events in the order in which they came. -/
structure Journal where
  counters : Counters := {}
  events : List Event := []
  deriving DecidableEq

namespace Journal

/-- Tells the log. -/
def emit (j : Journal) (e : Event) : Journal := { j with events := j.events ++ [e] }

/-- Counts an increment. -/
def countIncrement (j : Journal) : Journal :=
  { j with counters.increments := j.counters.increments + 1 }

/-- Counts a reset. -/
def countReset (j : Journal) : Journal :=
  { j with counters.resets := j.counters.resets + 1 }

/-- Counts a lock that was not free in time. -/
def countLockTimeout (j : Journal) : Journal :=
  { j with counters.lockTimeouts := j.counters.lockTimeouts + 1 }

/-- Counts a text that could not be decoded. -/
def countDecodeError (j : Journal) : Journal :=
  { j with counters.decodeErrors := j.counters.decodeErrors + 1 }

/-- Observes the wait for a lock. -/
def countLockWait (j : Journal) : Journal :=
  { j with counters.lockWaits := j.counters.lockWaits + 1 }

/-! ### What happens with locks -/

/-- A lock is granted. -/
def lockGranted (j : Journal) (var : VarId) : Journal := j.countLockWait.emit (.lockAcquired var)

/-- A lock is not free in time. -/
def lockRefused (j : Journal) (var : VarId) (limit : Nat) : Journal :=
  (j.emit (.lockTimedOut var limit)).countLockTimeout

end Journal

end TypedVars
