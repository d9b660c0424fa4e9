import TypedVars.Journal
import TypedVars.Lock.Table

/-!
# Locks in time

A timeline follows one lock table while acquisitions start, locks are let go and time passes.  After
each of these steps everything that can happen at that time happens: an acquisition that has become
the holder is granted, and one whose time limit has been reached while it waits is refused.  The
grant comes first, so a limit of zero still succeeds on a free lock.
-/

namespace TypedVars

/-- How far an acquisition has come. -/
inductive AcquisitionStatus where
  | waiting
  | held
  | refused
  | released
  deriving DecidableEq, Repr

/-- One attempt to get the lock of a variable. -/
structure Acquisition where
  var : VarId
  /-- The time at which it started. -/
  since : Nat
  /-- The longest time that it waits, if there is a bound. -/
  limit : Option Nat
  status : AcquisitionStatus := .waiting
  deriving DecidableEq, Repr

namespace Acquisition

/-- Whether the time limit has been reached. -/
def isOverdue (a : Acquisition) (now : Nat) : Bool := a.limit.any (a.since + · ≤ now)

/-- The failure of an acquisition that was refused. -/
def failure (a : Acquisition) : StoreError := .lockTimeout a.var (a.limit.getD 0)

end Acquisition

/-- A lock table in time.  The ticket of an acquisition is its place in the list. -/
structure Timeline where
  now : Nat := 0
  locks : Locks := {}
  acquisitions : List Acquisition := []
  journal : Journal := {}

namespace Timeline

/-- An acquisition gets its lock. -/
def grant (t : Timeline) (ticket : Ticket) (a : Acquisition) : Timeline :=
  { t with
    acquisitions := t.acquisitions.set ticket { a with status := .held }
    journal := t.journal.lockGranted a.var }

/-- An acquisition gives up. -/
def refuse (t : Timeline) (ticket : Ticket) (a : Acquisition) : Timeline :=
  { t with
    acquisitions := t.acquisitions.set ticket { a with status := .refused }
    locks := t.locks.abandon a.var ticket
    journal := t.journal.lockRefused a.var (a.limit.getD 0) }

/-- What can happen now to one acquisition. -/
def settleOne (t : Timeline) (ticket : Ticket) : Timeline :=
  match t.acquisitions[ticket]? with
  | some a =>
    if a.status ≠ .waiting then t
    else if t.locks.holds ticket then t.grant ticket a
    else if a.isOverdue t.now then t.refuse ticket a
    else t
  | none => t

/-- All that can happen now, in order of arrival. -/
def settle (t : Timeline) : Timeline :=
  (List.range t.acquisitions.length).foldl settleOne t

/-- An acquisition starts. -/
def acquire (t : Timeline) (var : VarId) (limit : Option Nat) : Timeline :=
  settle
    { t with
      acquisitions := t.acquisitions ++ [{ var, since := t.now, limit }]
      locks := t.locks.request var t.acquisitions.length }

/-- A holder lets its lock go. -/
def release (t : Timeline) (ticket : Ticket) : Timeline :=
  match t.acquisitions[ticket]? with
  | some a =>
    if a.status = .held then
      settle
        { t with
          acquisitions := t.acquisitions.set ticket { a with status := .released }
          locks := t.locks.release a.var ticket }
    else t
  | none => t

/-- Time passes. -/
def advance (t : Timeline) (ms : Nat) : Timeline := settle { t with now := t.now + ms }

end Timeline

/-- What can be done on a timeline. -/
inductive LockStep where
  | acquire (var : VarId) (limit : Option Nat)
  | release (ticket : Ticket)
  | advance (ms : Nat)
  deriving DecidableEq, Repr

namespace Timeline

/-- Does one step. -/
def step (t : Timeline) : LockStep → Timeline
  | .acquire var limit => t.acquire var limit
  | .release ticket => t.release ticket
  | .advance ms => t.advance ms

/-- Does some steps. -/
def run (t : Timeline) (steps : List LockStep) : Timeline := steps.foldl step t

end Timeline

end TypedVars
