import Mathlib.Tactic.Common
import TypedVars.Proofs.Backend.Document

/-!
# Documents in the reach of others

The path of a document is open to others: they may delete or overwrite the file between two calls,
put a directory in its place or take the directory away that it lies in.  Then the document and the
map in memory differ, and a write may fail.

What is true all the same (`Document.run_withstands`): a change whose write fails is answered by a
failure and is as if it had never been asked for; the map in memory is what the written changes, and
no others, have made of it; and from a written change on, until others come in again, the document
is synced, so it holds everything that was ever written, whatever happened to it in between.
-/

namespace TypedVars

namespace Document

variable {b : Document} {c : BackendCall}

/-! ## Shared paths -/

/-- A call on the backend, or others have been at the path and left this there. -/
inductive SharedStep where
  | call (c : BackendCall)
  | outside (disk : Disk)

/-- The document after a step. -/
def step (b : Document) : SharedStep → Document
  | .call c => (Backend.call b c).2
  | .outside disk => { b with disk }

/-- The document after some steps. -/
def run (b : Document) (steps : List SharedStep) : Document := steps.foldl step b

/-- What the calls among some steps answer. -/
def answers (b : Document) : List SharedStep → List (Except StoreError BackendAnswer)
  | [] => []
  | .call c :: rest => (Backend.call b c).1 :: (b.step (.call c)).answers rest
  | .outside disk :: rest => (b.step (.outside disk)).answers rest

/-- Whether a call is a change and its write of the document succeeds. -/
def writes (b : Document) (c : BackendCall) : Bool :=
  (c.change? b.map).any fun next => (b.disk.write? (bytesOf next)).isSome

/-- Whether a call is a change and its write of the document fails. -/
def refuses (b : Document) (c : BackendCall) : Bool :=
  (c.change? b.map).any fun next => (b.disk.write? (bytesOf next)).isNone

/-- The changes among some steps that are written, in their order. -/
def written (b : Document) : List SharedStep → List BackendCall
  | [] => []
  | .call c :: rest =>
    if b.writes c then c :: (b.step (.call c)).written rest else (b.step (.call c)).written rest
  | .outside disk :: rest => (b.step (.outside disk)).written rest

lemma run_append (b : Document) (steps rest : List SharedStep) :
    b.run (steps ++ rest) = (b.run steps).run rest := List.foldl_append

lemma answers_append (b : Document) (steps rest : List SharedStep) :
    b.answers (steps ++ rest) = b.answers steps ++ (b.run steps).answers rest := by
  induction steps generalizing b with
  | nil => rfl
  | cons step steps ih =>
    cases step with
    | call c => exact congrArg _ (ih _)
    | outside disk => exact ih _

/-! ## One call -/

lemma call_of_refuses (h : b.refuses c = true) :
    Backend.call b c = (.error (.backend none), b) := by
  rcases b.call_cases c with ⟨hchange, -⟩ | ⟨next, disk, hchange, hwrite, -⟩ | ⟨-, -, -, hcall⟩
  · simp [refuses, hchange] at h
  · simp [refuses, hchange, hwrite] at h
  · exact hcall

/-- A written change is the one that memory makes, and the document holds the map after it. -/
lemma call_of_writes (h : b.writes c = true) :
    ∃ next, Backend.call (⟨b.map⟩ : Memory) c = (.ok .done, ⟨next⟩) ∧
      Backend.call b c = (.ok .done, ⟨next, .file (bytesOf next)⟩) := by
  rcases b.call_cases c with ⟨hchange, -⟩ | ⟨next, disk, hchange, hwrite, hcall⟩ |
    ⟨next, hchange, hwrite, -⟩
  · simp [writes, hchange] at h
  · rw [eq_of_write? hwrite] at hcall
    exact ⟨next, Memory.call_of_change hchange, hcall⟩
  · simp [writes, hchange, hwrite] at h

lemma call_of_not_writes (h : b.writes c = false) : (Backend.call b c).2 = b := by
  rcases b.call_cases c with ⟨-, hcall⟩ | ⟨next, disk, hchange, hwrite, -⟩ | ⟨-, -, -, hcall⟩
  · rw [hcall]
  · simp [writes, hchange, hwrite] at h
  · rw [hcall]

/-! ## Runs -/

/-- The map in memory is what the written changes have made of it. -/
lemma map_run (b : Document) (steps : List SharedStep) :
    (b.run steps).map = (Backend.calls (⟨b.map⟩ : Memory) (b.written steps)).2.map := by
  induction steps generalizing b with
  | nil => rfl
  | cons step rest ih =>
    rw [run, List.foldl_cons, ← run, ih]
    cases step with
    | outside disk => rfl
    | call c =>
      cases hwrites : b.writes c with
      | true =>
        obtain ⟨next, hmemory, hcall⟩ := call_of_writes hwrites
        simp only [written, hwrites, if_true, Backend.calls_cons, hmemory]
        rw [Document.step, hcall]
      | false =>
        simp only [written, hwrites, Bool.false_eq_true, if_false]
        rw [Document.step, call_of_not_writes hwrites]

/-- Calls alone keep a document synced. -/
lemma Synced.run (h : b.Synced) (cs : List BackendCall) : (b.run (cs.map .call)).Synced := by
  induction cs generalizing b with
  | nil => exact h
  | cons c cs ih => exact ih (h.call c).2.2

/-- How the backend of a document stands some steps in which others are at its path. -/
structure Withstands (b : Document) (steps : List SharedStep) : Prop where
  /-- A change whose write fails answers a failure of the backend, leaves everything as it is, and
  so has no part in what any later call answers. -/
  refused : ∀ c, (b.run steps).refuses c = true →
    Backend.call (b.run steps) c = (.error (.backend none), b.run steps) ∧
      ∀ later, b.answers (steps ++ .call c :: later) =
        b.answers steps ++ .error (.backend none) :: (b.run steps).answers later
  /-- To remove what is not there succeeds and touches nothing, whatever stands at the path. -/
  absent : ∀ var, (b.run steps).map.get? var = none →
    Backend.call (b.run steps) (.unset var) = (.ok .done, b.run steps)
  /-- What is read is what is in memory, whatever stands at the path. -/
  read : ∀ var scope,
    Backend.call (b.run steps) (.get var) =
        (.ok (.text ((b.run steps).map.get? var)), b.run steps) ∧
      Backend.call (b.run steps) (.entries scope) =
        (.ok (.listing ((b.run steps).map.inScope scope).entries), b.run steps)
  /-- The map in memory is the one that the written changes, and no others, make in memory. -/
  complete : (b.run steps).map = (Backend.calls (⟨b.map⟩ : Memory) (b.written steps)).2.map
  /-- From a written change on, as long as nobody else comes to the path, the document holds the
  map in memory, and to open it again gives that map. -/
  healed : ∀ earlier c (cs : List BackendCall), steps = earlier ++ .call c :: cs.map .call →
    (b.run earlier).writes c = true →
      (b.run steps).disk = .file (bytesOf (b.run steps).map) ∧
        openOn (b.run steps).disk = .ok (b.run steps)

/-- Whatever others do at its path, and whichever writes fail, a document withstands it. -/
theorem run_withstands (b : Document) (steps : List SharedStep) : b.Withstands steps where
  refused c h := by
    have hcall := call_of_refuses h
    refine ⟨hcall, fun later => ?_⟩
    rw [answers_append, answers, step, hcall]
  absent var h := by
    have hchange : (BackendCall.unset var).change? (b.run steps).map = none := by
      simp [BackendCall.change?, h]
    exact call_of_no_change hchange
  read _ _ := ⟨rfl, rfl⟩
  complete := b.map_run steps
  healed earlier c cs heq h := by
    obtain ⟨next, -, hcall⟩ := call_of_writes h
    have hwritten : (⟨next, .file (bytesOf next)⟩ : Document).Synced := rfl
    have hsynced : (b.run steps).Synced := by
      rw [heq, run_append, run, List.foldl_cons, ← run, step, hcall]
      exact hwritten.run cs
    exact ⟨hsynced, hsynced.openOn⟩

end Document

end TypedVars
