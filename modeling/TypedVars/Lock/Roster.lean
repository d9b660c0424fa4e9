import TypedVars.Lock.Timeline

/-!
# Acquisitions by name

Callers know their acquisitions by names of their own.  To give a name up lets its lock go, or
forgets its failure; an acquisition that still waits cannot be called back, so its name is only out
of sight until the wait has ended.
-/

namespace TypedVars

/-- A name for an acquisition. -/
structure NamedTicket where
  name : String
  ticket : Ticket
  /-- Whether the name was given up while the acquisition waited. -/
  hidden : Bool := false

/-- A timeline whose acquisitions have names. -/
structure Roster where
  timeline : Timeline := {}
  names : List NamedTicket := []

namespace Roster

/-- Starts an acquisition under a name. -/
def acquire (r : Roster) (name : String) (var : VarId) (limit : Option Nat) : Roster :=
  ⟨r.timeline.acquire var limit,
    r.names.filter (·.name ≠ name) ++ [⟨name, r.timeline.acquisitions.length, false⟩]⟩

/-- The acquisition of a name. -/
def status? (r : Roster) (n : NamedTicket) : Option AcquisitionStatus :=
  (r.timeline.acquisitions[n.ticket]?).map (·.status)

/-- Gives a name up. -/
def release (r : Roster) (name : String) : Roster :=
  match r.names.find? (·.name = name) with
  | none => r
  | some n =>
    if r.status? n = some .waiting then
      { r with
        names := r.names.map fun m => if m.name = name then { m with hidden := true } else m }
    else ⟨r.timeline.release n.ticket, r.names.filter (·.name ≠ name)⟩

/-- Lets time pass. -/
def advance (r : Roster) (ms : Nat) : Roster := { r with timeline := r.timeline.advance ms }

/-- The names in sight, each with its acquisition. -/
def visible (r : Roster) : List (String × Acquisition) :=
  r.names.filterMap fun n =>
    match r.timeline.acquisitions[n.ticket]? with
    | some a => if n.hidden && a.status = .waiting then none else some (n.name, a)
    | none => none

end Roster

end TypedVars
