import TypedVars.Amount
import TypedVars.Store.Basic

/-!
# Locked calls

To increment a variable, or to update it by a function, is to read its value and to write another
one.  The backend cannot do this in one step, so such a call holds the lock of the variable all the
while.  It goes through stages: it asks for the lock and is granted it or refused, reads, writes,
lets the lock go, and draws its conclusion.  The stages are kept apart here, because calls at the
same time take turns between them; `Store.locked` does them one after another.

A locked call takes an undecodable text for nothing, so that an increment heals what it cannot read.
-/

namespace TypedVars

/-- What a locked call does to a value. -/
inductive Job where
  /-- Adds to the integer of the value; a value that has none is replaced. -/
  | increment (delta : Int)
  /-- Replaces the value by a function of it. -/
  | update (f : Option Value → Option Value)

/-- What a locked call makes of the value that it found. -/
structure Decision where
  written : Option Value
  answer : Answer
  /-- The amount that replaces a value without an integer. -/
  reset : Option Int := none

namespace Job

/-- What becomes of a value. -/
def decide : Job → Option Value → Decision
  | .increment delta, current =>
    match current.bind Value.integer? with
    | some base =>
      let next := clamp (base + delta)
      { written := some (.number (.ofInt next)), answer := .total next }
    | none =>
      { written := some (.number (.ofInt delta)), answer := .total delta
        reset := if current.isSome then some delta else none }
  | .update f, current => { written := f current, answer := .replaced current (f current) }

end Job

namespace Store

variable {β : Type}

/-! ### The lock -/

/-- Asks for the lock of a variable. -/
def request (s : Store β) (var : VarId) (t : Ticket) : Store β :=
  { s with locks := s.locks.request var t }

/-- Takes note of a lock that is granted. -/
def granted (s : Store β) (var : VarId) : Store β := s.note (·.lockGranted var)

/-- The failure of a call that waited for a lock as long as it may. -/
def refusal (var : VarId) (limit : Option Nat) : StoreError := .lockTimeout var (limit.getD 0)

/-- Gives up waiting for a lock. -/
def refused (s : Store β) (var : VarId) (t : Ticket) (limit : Option Nat) : Store β :=
  { s with
    locks := s.locks.abandon var t
    journal := s.journal.lockRefused var (limit.getD 0) }

/-- Lets a lock go. -/
def release (s : Store β) (var : VarId) (t : Ticket) : Store β :=
  { s with locks := s.locks.release var t }

/-! ### Under the lock -/

variable [Backend β]

/-- Reads a value, of which an undecodable text is none. -/
def fetch (s : Store β) (var : VarId) : Except StoreError (Option Value) × Store β :=
  match s.ask (Backend.get var) with
  | (.error e, s) => (.error e, s)
  | (.ok none, s) => (.ok none, s)
  | (.ok (some raw), s) =>
    match Value.decode raw with
    | .absent => (.ok none, s)
    | .value v => (.ok (some v), s)
    | .undecodable => (.ok none, s.note (·.emit (.discarded var raw)))

/-- Takes note of a value that is replaced because it has no integer. -/
def noteReset (s : Store β) (var : VarId) : Option Int → Store β
  | some delta => s.note fun j => j.countReset.emit (.reset var delta)
  | none => s

/-- Decides on a value and writes it. -/
def commit (s : Store β) (var : VarId) (job : Job) (current : Option Value) : Reply × Store β :=
  let d := job.decide current
  match (s.noteReset var d.reset).write var d.written with
  | (.ok (), s) => (.ok d.answer, s)
  | (.error e, s) => (.error e, s)

omit [Backend β] in
/-- Takes note of an increment that answers a value. -/
def conclude (s : Store β) (var : VarId) : Job → Reply → Store β
  | .increment delta, .ok (.total n) =>
    s.note fun j => j.countIncrement.emit (.incremented var delta n)
  | _, _ => s

/-! ### The whole call -/

/-- The ticket of a call that no other call runs beside. -/
def soleTicket : Ticket := 0

/-- Reads and writes a variable under its lock. -/
def locked (s : Store β) (var : VarId) (job : Job) : Reply × Store β :=
  if var.key = "" then (.error .emptyKey, s)
  else
    let s := s.request var soleTicket
    if s.locks.holds soleTicket then
      match (s.granted var).fetch var with
      | (.error e, s) => (.error e, s.release var soleTicket)
      | (.ok current, s) =>
        let (r, s) := s.commit var job current
        (r, (s.release var soleTicket).conclude var job r)
    else (.error (refusal var s.limit), s.refused var soleTicket s.limit)

/-- Adds an amount to the integer of a variable. -/
def increment (s : Store β) (var : VarId) (amount : Amount) : Reply × Store β :=
  s.locked var (.increment amount.delta)

/-- Replaces the value of a variable by a function of it. -/
def update (s : Store β) (var : VarId) (f : Option Value → Option Value) : Reply × Store β :=
  s.locked var (.update f)

end Store

end TypedVars
