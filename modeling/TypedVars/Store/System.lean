import TypedVars.Store.Call

/-!
# Calls at the same time

A system is a store with tasks that make one call each, on clones of the store that share its
backend and its locks.  The tasks take turns: a step moves one task from one stage of its call to
the next, and between two steps of a task any other may come.  A read of the backend takes some
time before it looks.

Two things drive a system.  An arbitrary sequence of `Move`s is every possible interleaving, with
whatever happens to the backend from outside.  The function `System.run` lets time pass to the next
step that can happen.  At one time the tasks take their turns in the order in which they began to
wait, so a time limit that was set before a read began runs out before that read is over; tasks that
began to wait together come in listed order.
-/

namespace TypedVars

/-- How far a task has come. -/
inductive Stage where
  /-- It has not started. -/
  | waiting
  /-- It has asked for the lock at some time. -/
  | queued (since : Nat)
  /-- It reads the backend, until some time. -/
  | reading (due : Nat)
  /-- It holds the lock and knows the value. -/
  | deciding (current : Option Value)
  /-- It holds the lock and has nothing more to do with it. -/
  | leaving (reply : Reply)
  /-- It ended at some time. -/
  | answered (time : Nat) (reply : Reply)

namespace Stage

/-- A bound on the number of steps that are left. -/
def rank : Stage → Nat
  | waiting => 5
  | queued _ => 4
  | reading _ => 3
  | deciding _ => 2
  | leaving _ => 1
  | answered .. => 0

end Stage

/-- A call that is made at some time, on a clone of the store. -/
structure Task where
  call : Call
  start : Nat := 0
  /-- The longest wait for a lock on the clone, where that is not the one of the store. -/
  limit : Option (Option Nat) := none
  stage : Stage := .waiting
  /-- The time at which it last began to wait. -/
  since : Nat := 0

/-- A store with tasks.  The ticket of a task is its place in the list. -/
structure System (β : Type) where
  store : Store β
  tasks : List Task
  /-- The time that a read of the backend takes. -/
  delay : Nat := 0
  now : Nat := 0

namespace System

variable {β : Type}

/-- The longest wait of a task for a lock, if there is a bound. -/
def limitOf (sys : System β) (task : Task) : Option Nat := task.limit.getD sys.store.limit

/-- The time from which a task can move, if it can move at all. -/
def readyAt? (sys : System β) (ticket : Ticket) (task : Task) : Option Nat :=
  match task.stage with
  | .waiting => some task.start
  | .queued since =>
    if sys.store.locks.holds ticket then some sys.now else (sys.limitOf task).map (since + ·)
  | .reading due => some due
  | .deciding _ | .leaving _ => some sys.now
  | .answered .. => none

/-- Whether a task can take its turn now. -/
def isReady (sys : System β) (ticket : Ticket) (task : Task) : Bool :=
  (sys.readyAt? ticket task).any (· ≤ sys.now)

/-- A task gets to a stage.  Where it cannot go on at once, it begins to wait. -/
def enter (sys : System β) (ticket : Ticket) (task : Task) (stage : Stage) (store : Store β) :
    System β :=
  let sys := { sys with store }
  let task := { task with stage }
  let since := if sys.isReady ticket task then task.since else sys.now
  { sys with tasks := sys.tasks.set ticket { task with since } }

variable [Backend β]

/-- The start of a call: it asks for a lock, begins to read, or does all that it has to do. -/
def begin (sys : System β) (ticket : Ticket) (call : Call) : Stage × Store β :=
  match call.job? with
  | some (var, _) => (.queued sys.now, sys.store.request var ticket)
  | none =>
    if call.isRead then (.reading (sys.now + sys.delay), sys.store)
    else
      let (r, store) := sys.store.call call
      (.answered sys.now r, store)

/-- A task that waits for a lock is granted it, or gives up. -/
def leaveQueue (sys : System β) (ticket : Ticket) (task : Task) (var : VarId) : Stage × Store β :=
  if sys.store.locks.holds ticket then (.reading (sys.now + sys.delay), sys.store.granted var)
  else
    (.answered sys.now (.error (Store.refusal var (sys.limitOf task))),
      sys.store.refused var ticket (sys.limitOf task))

/-- The end of a read. -/
def finishRead (sys : System β) (call : Call) : Stage × Store β :=
  match call.job? with
  | some (var, _) =>
    match sys.store.fetch var with
    | (.ok current, store) => (.deciding current, store)
    | (.error e, store) => (.leaving (.error e), store)
  | none =>
    let (r, store) := sys.store.call call
    (.answered sys.now r, store)

/-- The stage to which a task moves on, and what it does to the store. -/
def turn (sys : System β) (ticket : Ticket) (task : Task) : Stage × Store β :=
  match task.stage, task.call.job? with
  | .waiting, _ => sys.begin ticket task.call
  | .queued _, some (var, _) => sys.leaveQueue ticket task var
  | .reading _, _ => sys.finishRead task.call
  | .deciding current, some (var, job) =>
    let (r, store) := sys.store.commit var job current
    (.leaving r, store)
  | .leaving r, some (var, job) =>
    (.answered sys.now r, (sys.store.release var ticket).conclude var job r)
  | stage, _ => (stage, sys.store)

/-- A task moves on from its stage. -/
def moveTask (sys : System β) (ticket : Ticket) (task : Task) : System β :=
  let (stage, store) := sys.turn ticket task
  sys.enter ticket task stage store

/-- A task takes its turn, if it can move by now. -/
def step (sys : System β) (ticket : Ticket) : System β :=
  match sys.tasks[ticket]? with
  | some task => if sys.isReady ticket task then sys.moveTask ticket task else sys
  | none => sys

end System

/-- What can happen in a system. -/
inductive Move (β : Type) where
  /-- Time passes. -/
  | tick (ms : Nat)
  /-- A task takes its turn. -/
  | turn (ticket : Ticket)
  /-- The backend changes by something that is no call on the store. -/
  | outside (change : β → β)

/-- A turn that a task can take from some time on, and how long it has waited. -/
structure Turn where
  time : Nat
  since : Nat
  ticket : Ticket
  deriving DecidableEq, Repr

namespace Turn

/-- Whether a turn comes before another one. -/
def before (a b : Turn) : Bool := a.time < b.time || (a.time = b.time && a.since < b.since)

/-- The first of two turns; the given order decides when neither is before the other. -/
def first (a b : Turn) : Turn := if b.before a then b else a

end Turn

namespace System

variable {β : Type}

/-- The first of a turn and the turns of some tasks that can come from now on, where the tasks have
the tickets from some number on. -/
def firstTurn? (sys : System β) (best : Option Turn) (ticket : Ticket) :
    List Task → Option Turn
  | [] => best
  | task :: rest =>
    match sys.readyAt? ticket task with
    | some time =>
      let turn : Turn := ⟨max sys.now time, task.since, ticket⟩
      sys.firstTurn? (some (best.elim turn (·.first turn))) (ticket + 1) rest
    | none => sys.firstTurn? best (ticket + 1) rest

/-- The next turn. -/
def next? (sys : System β) : Option Turn := sys.firstTurn? none 0 sys.tasks

/-- A bound on the number of turns that are left. -/
def rank (sys : System β) : Nat := sys.tasks.foldr (fun task n => task.stage.rank + n) 0

variable [Backend β]

/-- Does one move. -/
def move (sys : System β) : Move β → System β
  | .tick ms => { sys with now := sys.now + ms }
  | .turn ticket => sys.step ticket
  | .outside change => { sys with store.backend := change sys.store.backend }

/-- Does some moves. -/
def moves (sys : System β) (ms : List (Move β)) : System β := ms.foldl move sys

/-- Takes the turns as they come, at most some number of them. -/
def runFor : Nat → System β → System β
  | 0, sys => sys
  | fuel + 1, sys =>
    match sys.next? with
    | some turn => runFor fuel ({ sys with now := turn.time }.step turn.ticket)
    | none => sys

/-- Takes the turns as they come, until every task has its answer. -/
def run (sys : System β) : System β := sys.runFor sys.rank

end System

end TypedVars
