import TypedVars.Scope

/-!
# The lock table

Each variable has a lock of its own, held by at most one ticket, with the tickets that wait for it
in order of arrival.  A lock that is let go passes to the first in the queue in the same moment, so
nobody can come between.

A lock is shared: the table refers to it by the variable, and so does every ticket from the moment
at which it asks for the lock until it lets the lock go or gives up.  A ticket uses the lock that it
refers to and never looks into the table again.  The table makes a lock for a variable that has
none, and whoever leaves a lock takes its entry away when no other reference than that of the table
is left.  So a lock can be out of the table while tickets still use it, unless the counting of
references is right.
-/

namespace TypedVars

/-- The number by which one attempt to get a lock is known. -/
abbrev Ticket := Nat

/-- The number by which a lock is known. -/
abbrev LockId := Nat

/-- The state of one lock. -/
structure Mutex where
  holder : Option Ticket := none
  queue : List Ticket := []
  deriving DecidableEq, Repr

namespace Mutex

/-- Whether nobody holds the lock or waits for it. -/
def isIdle (m : Mutex) : Bool := m.holder.isNone && m.queue.isEmpty

/-- A ticket takes a free lock, or the last place in the queue. -/
def join (m : Mutex) (t : Ticket) : Mutex :=
  match m.holder with
  | none => { m with holder := some t }
  | some _ => { m with queue := m.queue ++ [t] }

/-- The holder lets the lock go, to the first in the queue. -/
def pass (m : Mutex) : Mutex := ⟨m.queue.head?, m.queue.tail⟩

/-- A ticket leaves the queue. -/
def quit (m : Mutex) (t : Ticket) : Mutex := { m with queue := m.queue.filter (· ≠ t) }

end Mutex

/-- The locks of all variables. -/
structure Locks where
  /-- The lock of each variable that has an entry. -/
  table : List (VarId × LockId) := []
  /-- The lock that each ticket refers to. -/
  handles : List (Ticket × LockId) := []
  /-- All locks that were ever made, each at its number. -/
  made : List Mutex := []
  deriving DecidableEq, Repr

namespace Locks

/-- The lock that the table has for a variable; without an entry it is one that nobody has used. -/
def mutex (l : Locks) (var : VarId) : Mutex :=
  ((l.table.lookup var).bind fun id => l.made[id]?).getD {}

/-- Makes an entry with a new lock for a variable that has none. -/
def ensure (l : Locks) (var : VarId) : Locks :=
  match l.table.lookup var with
  | some _ => l
  | none => { l with table := (var, l.made.length) :: l.table, made := l.made ++ [{}] }

/-- Changes the state of a lock. -/
def modify (l : Locks) (id : LockId) (f : Mutex → Mutex) : Locks :=
  { l with made := l.made.modify id f }

/-- A ticket asks for the lock of a variable, and refers to it from now on. -/
def request (l : Locks) (var : VarId) (t : Ticket) : Locks :=
  let l := l.ensure var
  match l.table.lookup var with
  | some id => { l.modify id (·.join t) with handles := (t, id) :: l.handles }
  | none => l

/-- The number of references to a lock. -/
def references (l : Locks) (id : LockId) : Nat :=
  l.table.countP (·.2 = id) + l.handles.countP (·.2 = id)

/-- Takes the entry of a variable away, if only the table refers to its lock. -/
def removeIfIdle (l : Locks) (var : VarId) : Locks :=
  match l.table.lookup var with
  | some id =>
    if l.references id = 1 then { l with table := l.table.filter (·.1 ≠ var) } else l
  | none => l

/-- A ticket is done with its lock: it changes the state of the lock for the last time and drops its
reference. -/
def leave (l : Locks) (var : VarId) (t : Ticket) (f : Mutex → Mutex) : Locks :=
  match l.handles.lookup t with
  | some id => removeIfIdle { l.modify id f with handles := l.handles.filter (·.1 ≠ t) } var
  | none => l

/-- The holder of a variable's lock lets it go. -/
def release (l : Locks) (var : VarId) (t : Ticket) : Locks := l.leave var t Mutex.pass

/-- A ticket stops waiting for the lock of a variable. -/
def abandon (l : Locks) (var : VarId) (t : Ticket) : Locks := l.leave var t (·.quit t)

/-- Whether a ticket holds the lock that it refers to. -/
def holds (l : Locks) (t : Ticket) : Bool :=
  ((l.handles.lookup t).bind fun id => l.made[id]?).any (·.holder = some t)

/-- The number of variables with an entry. -/
def size (l : Locks) : Nat := l.table.length

/-- Whether no variable has an entry. -/
def isEmpty (l : Locks) : Bool := l.table.isEmpty

end Locks

end TypedVars
