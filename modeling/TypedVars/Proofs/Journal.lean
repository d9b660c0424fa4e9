import Mathlib.Tactic.Common
import TypedVars.Store.Basic

/-!
# Reports

Counting and reporting are two acts, and the store does both wherever it does one.  So what it adds
to a journal is always a *report* of some events (`Journal.report`): the events are appended, and
each is counted in the counter of its kind.  The counters have then grown by the numbers of events
with their messages (`Journal.grown_report`).
-/

namespace TypedVars

/-- What an event adds to the counters. -/
def Counters.count (c : Counters) : Event → Counters
  | .incremented .. => { c with increments := c.increments + 1 }
  | .reset .. => { c with resets := c.resets + 1 }
  | .lockTimedOut .. => { c with lockTimeouts := c.lockTimeouts + 1 }
  | .undecodable .. | .skipped .. => { c with decodeErrors := c.decodeErrors + 1 }
  | .lockAcquired _ => { c with lockWaits := c.lockWaits + 1 }
  | .ready .. | .opened _ | .discarded .. => c

namespace Journal

variable {j j' : Journal} {es es' : List Event}

/-- Tells the log of some events, and counts them. -/
def report (j : Journal) (es : List Event) : Journal :=
  ⟨es.foldl Counters.count j.counters, j.events ++ es⟩

@[simp]
lemma report_nil (j : Journal) : j.report [] = j := by
  rw [report, List.append_nil]
  rfl

@[simp]
lemma report_report (j : Journal) (es es' : List Event) :
    (j.report es).report es' = j.report (es ++ es') := by
  simp only [report, List.foldl_append, List.append_assoc]

/-- The events that come new with a report are those that are reported. -/
@[simp]
lemma drop_events_report (j : Journal) (es : List Event) :
    (j.report es).events.drop j.events.length = es := List.drop_left

/-! ## What the store reports -/

lemma lockGranted_eq (j : Journal) (var : VarId) :
    j.lockGranted var = j.report [.lockAcquired var] := rfl

lemma lockRefused_eq (j : Journal) (var : VarId) (limit : Nat) :
    j.lockRefused var limit = j.report [.lockTimedOut var limit] := rfl

/-- The events of the entries that a listing leaves out. -/
def skips (scope : Scope) (entries : List (String × String)) : List Event :=
  (entries.filter fun e => Value.decode e.2 = .undecodable).map fun e => .skipped ⟨scope, e.1⟩ e.2

lemma noteSkipped_eq (scope : Scope) (j : Journal) (entries : List (String × String)) :
    Store.noteSkipped scope j entries = j.report (skips scope entries) := by
  induction entries generalizing j with
  | nil => exact (report_nil j).symm
  | cons e rest ih =>
    rw [Store.noteSkipped, skips, List.filter_cons]
    cases hdecode : Value.decode e.2 with
    | undecodable =>
      simp only [decide_true, if_true, List.map_cons, ih]
      exact report_report j [.skipped ⟨scope, e.1⟩ e.2] _
    | absent | value v => exact ih j

/-! ## Counters and messages -/

/-- A journal has grown by some events, which are counted by their messages. -/
structure Grown (j j' : Journal) (es : List Event) : Prop where
  events : j'.events = j.events ++ es
  increments : j'.counters.increments =
    j.counters.increments + es.countP (·.message = "incremented")
  resets : j'.counters.resets = j.counters.resets +
    es.countP (·.message = "current value is not numeric; resetting to delta")
  lockTimeouts : j'.counters.lockTimeouts =
    j.counters.lockTimeouts + es.countP (·.message = "lock acquisition timed out")
  lockWaits : j'.counters.lockWaits =
    j.counters.lockWaits + es.countP (·.message = "lock acquired")
  decodeErrors : j'.counters.decodeErrors = j.counters.decodeErrors + es.countP fun e =>
    e.message = "stored value is not decodable" ∨
      e.message = "skipping undecodable entry in dump"

lemma Grown.refl (j : Journal) : Grown j j [] :=
  ⟨(List.append_nil _).symm, rfl, rfl, rfl, rfl, rfl⟩

lemma Grown.trans {j'' : Journal} (h : Grown j j' es) (h' : Grown j' j'' es') :
    Grown j j'' (es ++ es') where
  events := by rw [h'.events, h.events, List.append_assoc]
  increments := by rw [h'.increments, h.increments, List.countP_append, Nat.add_assoc]
  resets := by rw [h'.resets, h.resets, List.countP_append, Nat.add_assoc]
  lockTimeouts := by rw [h'.lockTimeouts, h.lockTimeouts, List.countP_append, Nat.add_assoc]
  lockWaits := by rw [h'.lockWaits, h.lockWaits, List.countP_append, Nat.add_assoc]
  decodeErrors := by rw [h'.decodeErrors, h.decodeErrors, List.countP_append, Nat.add_assoc]

lemma grown_report_singleton (j : Journal) (e : Event) : Grown j (j.report [e]) [e] := by
  cases e <;> exact ⟨rfl, rfl, rfl, rfl, rfl, rfl⟩

/-- The log and the counters are told the same of a report. -/
theorem grown_report (j : Journal) (es : List Event) : Grown j (j.report es) es := by
  induction es generalizing j with
  | nil =>
    rw [report_nil]
    exact .refl j
  | cons e es ih =>
    have hrest := (grown_report_singleton j e).trans (ih (j.report [e]))
    rwa [report_report] at hrest

end Journal

end TypedVars
