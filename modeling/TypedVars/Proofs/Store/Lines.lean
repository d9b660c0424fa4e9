import TypedVars.Proofs.Lock.Table
import TypedVars.Proofs.Store.Atomic
import TypedVars.Store.System

/-!
# Turns and lines

A turn of a task is one of a few kinds, listed by `System.Advance` with all that each of them does:
every invariant of a system is proved along these cases.

The first of these invariants ties the lock table to what the tasks are doing (`System.Lined`): the
line of a variable consists of the tasks that asked for its lock and have not let it go, and one
that reads, decides or leaves under the lock stands at its head.  So at most one task of a variable
is anywhere between its read and its release.
-/

namespace TypedVars

namespace Stage

/-- Whether a task with this stage has asked for its lock and not let it go. -/
def inLine : Stage → Bool
  | queued _ | reading _ | deciding _ | leaving _ => true
  | waiting | answered .. => false

/-- Whether a task with this stage holds its lock. -/
def isServed : Stage → Bool
  | reading _ | deciding _ | leaving _ => true
  | waiting | queued _ | answered .. => false

/-- Whether this is a stage that only locked calls come to. -/
def isLocked : Stage → Bool
  | queued _ | deciding _ | leaving _ => true
  | waiting | reading _ | answered .. => false

lemma inLine_of_isServed {stage : Stage} (h : stage.isServed = true) : stage.inLine = true := by
  cases stage <;> first | rfl | cases h

end Stage

namespace System

variable {β : Type} {sys : System β} {t i : Ticket} {task other : Task} {stage : Stage}
  {store : Store β} {var : VarId} {job : Job}

/-! ## Entering a stage -/

@[simp] lemma store_enter (sys : System β) (t : Ticket) (task : Task) (stage : Stage)
    (store : Store β) : (sys.enter t task stage store).store = store := rfl

/-- Only the task that moves has changed, and of it only how far it has come. -/
lemma exists_enter (ht : sys.tasks[t]? = some task) (stage : Stage) (store : Store β) :
    ∃ since, ∀ i, (sys.enter t task stage store).tasks[i]? =
      if i = t then some { task with stage, since } else sys.tasks[i]? := by
  obtain ⟨since, htasks⟩ : ∃ since, (sys.enter t task stage store).tasks =
      sys.tasks.set t { task with stage, since } := ⟨_, rfl⟩
  refine ⟨since, ?_⟩
  intro i
  have hlt : t < sys.tasks.length := (List.getElem?_eq_some_iff.1 ht).1
  rw [htasks, List.getElem?_set]
  by_cases hi : t = i
  · subst hi
    simp [hlt]
  · rw [if_neg hi, if_neg fun e => hi e.symm]

/-! ## The kinds of turns -/

variable [Backend β]

/-- What a turn of a task does, by its stage: the stage that it gets to and what becomes of the
store. -/
inductive Advance (sys : System β) (t : Ticket) (task : Task) : Stage → Store β → Prop where
  /-- A task with a job asks for its lock. -/
  | ask {var : VarId} {job : Job} (hstage : task.stage = .waiting)
    (hjob : task.call.job? = some (var, job)) :
    Advance sys t task (.queued sys.now) (sys.store.request var t)
  /-- A read begins. -/
  | look (hstage : task.stage = .waiting) (hjob : task.call.job? = none)
    (hread : task.call.isRead = true) :
    Advance sys t task (.reading (sys.now + sys.delay)) sys.store
  /-- Any other call without a lock is made. -/
  | rush (hstage : task.stage = .waiting) (hjob : task.call.job? = none)
    (hread : task.call.isRead = false) :
    Advance sys t task (.answered sys.now (sys.store.call task.call).1)
      (sys.store.call task.call).2
  /-- The lock is granted. -/
  | granted {var : VarId} {job : Job} {since : Nat} (hstage : task.stage = .queued since)
    (hjob : task.call.job? = some (var, job)) (hholds : sys.store.locks.holds t = true) :
    Advance sys t task (.reading (sys.now + sys.delay)) (sys.store.granted var)
  /-- The wait for the lock ends without it. -/
  | refused {var : VarId} {job : Job} {since limit : Nat} (hstage : task.stage = .queued since)
    (hjob : task.call.job? = some (var, job)) (hholds : sys.store.locks.holds t = false)
    (hlimit : sys.limitOf task = some limit) :
    Advance sys t task (.answered sys.now (.error (.lockTimeout var limit)))
      (sys.store.refused var t (some limit))
  /-- The value is read under the lock. -/
  | found {var : VarId} {job : Job} {due : Nat} {current : Option Value}
    (hstage : task.stage = .reading due) (hjob : task.call.job? = some (var, job))
    (hfetch : (sys.store.fetch var).1 = .ok current) :
    Advance sys t task (.deciding current) (sys.store.fetch var).2
  /-- The read under the lock fails. -/
  | failed {var : VarId} {job : Job} {due : Nat} {e : StoreError}
    (hstage : task.stage = .reading due) (hjob : task.call.job? = some (var, job))
    (hfetch : (sys.store.fetch var).1 = .error e) :
    Advance sys t task (.leaving (.error e)) (sys.store.fetch var).2
  /-- A read without a lock ends. -/
  | told {due : Nat} (hstage : task.stage = .reading due) (hjob : task.call.job? = none) :
    Advance sys t task (.answered sys.now (sys.store.call task.call).1)
      (sys.store.call task.call).2
  /-- The value is decided upon and written. -/
  | wrote {var : VarId} {job : Job} {current : Option Value}
    (hstage : task.stage = .deciding current) (hjob : task.call.job? = some (var, job)) :
    Advance sys t task (.leaving (sys.store.commit var job current).1)
      (sys.store.commit var job current).2
  /-- The lock is let go. -/
  | left {var : VarId} {job : Job} {reply : Reply} (hstage : task.stage = .leaving reply)
    (hjob : task.call.job? = some (var, job)) :
    Advance sys t task (.answered sys.now reply)
      ((sys.store.release var t).conclude var job reply)
  /-- Nothing happens at a stage of locked calls in a call that needs no lock. -/
  | idle (hjob : task.call.job? = none) (hstage : task.stage.isLocked = true) :
    Advance sys t task task.stage sys.store

lemma advance_turn (hready : sys.isReady t task = true) :
    Advance sys t task (sys.turn t task).1 (sys.turn t task).2 := by
  cases hstage : task.stage with
  | waiting =>
    simp only [turn, hstage, begin]
    cases hjob : task.call.job? with
    | some p => exact .ask hstage hjob
    | none =>
      cases hread : task.call.isRead with
      | true => exact .look hstage hjob hread
      | false => exact .rush hstage hjob hread
  | queued since =>
    cases hjob : task.call.job? with
    | some p =>
      simp only [turn, hstage, hjob, leaveQueue]
      cases hholds : sys.store.locks.holds t with
      | true => exact .granted hstage hjob hholds
      | false =>
        have hdue : (sys.limitOf task).isSome = true := by
          cases hlimit : sys.limitOf task with
          | some limit => rfl
          | none => simp [isReady, readyAt?, hstage, hholds, hlimit] at hready
        obtain ⟨limit, hlimit⟩ := Option.isSome_iff_exists.1 hdue
        simp only [hlimit]
        exact .refused hstage hjob hholds hlimit
    | none =>
      simp only [turn, hstage, hjob]
      rw [← hstage]
      exact .idle hjob (by rw [hstage]; rfl)
  | reading due =>
    simp only [turn, hstage, finishRead]
    cases hjob : task.call.job? with
    | some p =>
      cases hfetch : sys.store.fetch p.1 with
      | mk r store =>
        simp only [hfetch]
        cases r with
        | ok current =>
          have h := Advance.found (t := t) hstage hjob (congrArg Prod.fst hfetch)
          rwa [hfetch] at h
        | error e =>
          have h := Advance.failed (t := t) hstage hjob (congrArg Prod.fst hfetch)
          rwa [hfetch] at h
    | none => exact .told hstage hjob
  | deciding current =>
    cases hjob : task.call.job? with
    | some p =>
      simp only [turn, hstage, hjob]
      exact .wrote hstage hjob
    | none =>
      simp only [turn, hstage, hjob]
      rw [← hstage]
      exact .idle hjob (by rw [hstage]; rfl)
  | leaving reply =>
    cases hjob : task.call.job? with
    | some p =>
      simp only [turn, hstage, hjob]
      exact .left hstage hjob
    | none =>
      simp only [turn, hstage, hjob]
      rw [← hstage]
      exact .idle hjob (by rw [hstage]; rfl)
  | answered time reply => simp [isReady, readyAt?, hstage] at hready

/-- A step of a ticket does nothing, or it is a turn of its task. -/
lemma step_cases (sys : System β) (t : Ticket) :
    (sys.step t = sys ∧ ∀ task, sys.tasks[t]? = some task → sys.isReady t task = false) ∨
    ∃ task, sys.tasks[t]? = some task ∧ sys.isReady t task = true ∧
      sys.step t = sys.enter t task (sys.turn t task).1 (sys.turn t task).2 := by
  unfold step
  cases ht : sys.tasks[t]? with
  | none => exact .inl ⟨rfl, fun task h => by cases h⟩
  | some task =>
    dsimp only
    cases hready : sys.isReady t task with
    | true => exact .inr ⟨task, rfl, hready, rfl⟩
    | false =>
      refine .inl ⟨rfl, ?_⟩
      intro task' h
      cases h
      exact hready

/-! ## Lines -/

/-- The lines of the lock table are those of the tasks: one who has asked for the lock of a variable
and not let it go is in the line of the variable, and one who holds it is at the head. -/
structure Lined (sys : System β) : Prop where
  sound : sys.store.locks.Sound
  line_iff : ∀ var t, t ∈ sys.store.locks.users var ↔
    ∃ task job, sys.tasks[t]? = some task ∧ task.call.job? = some (var, job) ∧
      task.stage.inLine = true
  head : ∀ t task var job, sys.tasks[t]? = some task → task.call.job? = some (var, job) →
    task.stage.isServed = true → (sys.store.locks.users var).head? = some t

/-- Nothing has happened yet: nobody uses a lock, and no task has started. -/
structure Fresh (sys : System β) : Prop where
  locks : sys.store.locks.Unused
  tasks : ∀ task ∈ sys.tasks, task.stage = .waiting

omit [Backend β] in
lemma Fresh.lined (h : sys.Fresh) : sys.Lined where
  sound := h.locks.sound
  line_iff var t := by
    rw [h.locks.users_eq_nil]
    constructor
    · intro hmem
      cases hmem
    · rintro ⟨task, job, ht, -, hline⟩
      rw [h.tasks task (List.mem_of_getElem? ht)] at hline
      cases hline
  head t task var job ht _ hserved := by
    rw [h.tasks task (List.mem_of_getElem? ht)] at hserved
    cases hserved

omit [Backend β] in
lemma Lined.mem_users (h : sys.Lined) (ht : sys.tasks[t]? = some task)
    (hjob : task.call.job? = some (var, job)) (hline : task.stage.inLine = true) :
    t ∈ sys.store.locks.users var := (h.line_iff var t).2 ⟨task, job, ht, hjob, hline⟩

omit [Backend β] in
lemma Lined.not_mem_users (h : sys.Lined) (ht : sys.tasks[t]? = some task)
    (hline : task.stage.inLine = false) (v : VarId) : t ∉ sys.store.locks.users v := by
  intro hmem
  obtain ⟨other, _, hother, _, hline'⟩ := (h.line_iff v t).1 hmem
  rw [ht] at hother
  cases hother
  rw [hline] at hline'
  cases hline'

omit [Backend β] in
lemma Lined.unique_served (h : sys.Lined) {job' : Job} (ht : sys.tasks[t]? = some task)
    (hjob : task.call.job? = some (var, job)) (hserved : task.stage.isServed = true)
    (hi : sys.tasks[i]? = some other) (hjob' : other.call.job? = some (var, job'))
    (hserved' : other.stage.isServed = true) : i = t := by
  have hhead := h.head t task var job ht hjob hserved
  rw [h.head i other var job' hi hjob' hserved'] at hhead
  exact Option.some.inj hhead

omit [Backend β] in
/-- A turn that leaves the locks as they are keeps the lines, when it neither enters nor leaves a
line and is served only at the head. -/
lemma Lined.enter (h : sys.Lined) (ht : sys.tasks[t]? = some task)
    (hlocks : store.locks = sys.store.locks)
    (hline : ∀ var job, task.call.job? = some (var, job) → stage.inLine = task.stage.inLine)
    (hserved : ∀ var job, task.call.job? = some (var, job) → stage.isServed = true →
      (sys.store.locks.users var).head? = some t) :
    (sys.enter t task stage store).Lined := by
  obtain ⟨since, htasks⟩ := exists_enter ht stage store
  refine ⟨by rw [store_enter, hlocks]; exact h.sound, ?_, ?_⟩
  · intro v j
    rw [store_enter, hlocks, h.line_iff]
    by_cases hj : j = t
    · subst hj
      simp only [htasks, if_true, ht]
      constructor
      · rintro ⟨b, job, hb, hjob, hin⟩
        cases hb
        exact ⟨_, job, rfl, hjob, (hline v job hjob).trans hin⟩
      · rintro ⟨b, job, hb, hjob, hin⟩
        cases hb
        exact ⟨_, job, rfl, hjob, (hline v job hjob).symm.trans hin⟩
    · simp only [htasks, if_neg hj]
  · intro j b v job hb hjob hs
    rw [store_enter, hlocks]
    rw [htasks] at hb
    by_cases hj : j = t
    · subst hj
      rw [if_pos rfl] at hb
      cases hb
      exact hserved v job hjob hs
    · rw [if_neg hj] at hb
      exact h.head j b v job hb hjob hs

omit [Backend β] in
lemma Lined.ask (h : sys.Lined) (ht : sys.tasks[t]? = some task)
    (hstage : task.stage = .waiting) (hjob : task.call.job? = some (var, job)) (since : Nat) :
    (sys.enter t task (.queued since) (sys.store.request var t)).Lined := by
  obtain ⟨since', htasks⟩ := exists_enter ht (.queued since) (sys.store.request var t)
  have hout : task.stage.inLine = false := by rw [hstage]; rfl
  have hlocks : (sys.store.request var t).locks = sys.store.locks.request var t := rfl
  obtain ⟨hsound, husers⟩ := h.sound.request (h.not_mem_users ht hout) var
  refine ⟨hsound, ?_, ?_⟩
  · intro v j
    rw [store_enter, hlocks, husers]
    by_cases hj : j = t
    · subst hj
      simp only [htasks, if_true, Option.some.injEq, exists_and_left, exists_eq_left', hjob,
        Prod.mk.injEq]
      by_cases hv : v = var
      · subst hv
        simp [Stage.inLine]
      · rw [if_neg hv]
        refine ⟨fun hmem => absurd hmem (h.not_mem_users ht hout v), ?_⟩
        rintro ⟨_, ⟨hv', -⟩, -⟩
        exact absurd hv'.symm hv
    · simp only [htasks, if_neg hj]
      rw [← h.line_iff]
      by_cases hv : v = var
      · subst hv
        simp [hj]
      · rw [if_neg hv]
  · intro j b v job' hb hjob' hs
    rw [store_enter, hlocks, husers]
    rw [htasks] at hb
    by_cases hj : j = t
    · rw [if_pos hj] at hb
      cases hb
      cases hs
    · rw [if_neg hj] at hb
      have hhead := h.head j b v job' hb hjob' hs
      split
      · next hv =>
        subst hv
        rw [List.head?_append, hhead]
        rfl
      · exact hhead

omit [Backend β] in
lemma Lined.out (h : sys.Lined) (ht : sys.tasks[t]? = some task)
    (hjob : task.call.job? = some (var, job)) (hline : task.stage.inLine = true)
    (hout : stage.inLine = false) (hsound : store.locks.Sound)
    (husers : ∀ v, store.locks.users v = if v = var then
      (sys.store.locks.users var).filter (· ≠ t) else sys.store.locks.users v) :
    (sys.enter t task stage store).Lined := by
  obtain ⟨since, htasks⟩ := exists_enter ht stage store
  have hmem := h.mem_users ht hjob hline
  refine ⟨hsound, ?_, ?_⟩
  · intro v j
    rw [store_enter, husers]
    by_cases hj : j = t
    · subst hj
      simp only [htasks, if_true, Option.some.injEq, exists_and_left, exists_eq_left', hout]
      by_cases hv : v = var
      · simp [hv]
      · rw [if_neg hv]
        refine ⟨fun hmem' => absurd (h.sound.unique_of_mem_users hmem' hmem) hv, ?_⟩
        rintro ⟨_, -, habs⟩
        cases habs
    · simp only [htasks, if_neg hj]
      rw [← h.line_iff]
      by_cases hv : v = var
      · subst hv
        simp [hj]
      · rw [if_neg hv]
  · intro j b v job' hb hjob' hs
    rw [store_enter, husers]
    rw [htasks] at hb
    by_cases hj : j = t
    · rw [if_pos hj] at hb
      cases hb
      rw [Stage.inLine_of_isServed hs] at hout
      cases hout
    · rw [if_neg hj] at hb
      have hhead := h.head j b v job' hb hjob' hs
      split
      · next hv =>
        subst hv
        obtain ⟨rest, hline'⟩ := List.head?_eq_some_iff.1 hhead
        rw [hline', List.filter_cons_of_pos (by simpa using hj)]
        rfl
      · exact hhead

lemma Lined.advance (h : sys.Lined) (ht : sys.tasks[t]? = some task)
    (hadv : Advance sys t task stage store) : (sys.enter t task stage store).Lined := by
  cases hadv with
  | ask hstage hjob => exact h.ask ht hstage hjob sys.now
  | look hstage hjob =>
    exact h.enter ht rfl (fun v j hj => by rw [hjob] at hj; cases hj)
      fun v j hj => by rw [hjob] at hj; cases hj
  | rush hstage hjob =>
    exact h.enter ht (Store.sameLocks_call _ hjob).1 (fun v j hj => by rw [hjob] at hj; cases hj)
      fun v j hj => by rw [hjob] at hj; cases hj
  | granted hstage hjob hholds =>
    refine h.enter ht rfl (fun v j hj => by rw [hstage]; rfl) fun v j hj _ => ?_
    have hmem := h.mem_users ht hj (by rw [hstage]; rfl)
    exact (h.sound.holds_iff hmem).1 hholds
  | @refused var job since limit hstage hjob hholds hlimit =>
    have hmem := h.mem_users ht hjob (by rw [hstage]; rfl)
    have hnot : (sys.store.locks.users var).head? ≠ some t := by
      intro hhead
      rw [(h.sound.holds_iff hmem).2 hhead] at hholds
      cases hholds
    obtain ⟨hsound, husers⟩ := h.sound.abandon hmem hnot
    exact h.out ht hjob (by rw [hstage]; rfl) rfl hsound husers
  | found hstage hjob hfetch =>
    exact h.enter ht (Store.moved_fetch _ _).locks (fun v j hj => by rw [hstage]; rfl)
      fun v j hj _ => h.head t task v j ht hj (by rw [hstage]; rfl)
  | failed hstage hjob hfetch =>
    exact h.enter ht (Store.moved_fetch _ _).locks (fun v j hj => by rw [hstage]; rfl)
      fun v j hj _ => h.head t task v j ht hj (by rw [hstage]; rfl)
  | told hstage hjob =>
    exact h.enter ht (Store.sameLocks_call _ hjob).1 (fun v j hj => by rw [hjob] at hj; cases hj)
      fun v j hj => by rw [hjob] at hj; cases hj
  | wrote hstage hjob =>
    exact h.enter ht (Store.moved_commit _ _ _ _).locks (fun v j hj => by rw [hstage]; rfl)
      fun v j hj _ => h.head t task v j ht hj (by rw [hstage]; rfl)
  | @left var job reply hstage hjob =>
    have hhead := h.head t task var job ht hjob (by rw [hstage]; rfl)
    obtain ⟨hsound, husers⟩ := h.sound.release hhead
    have hlocks := (Store.moved_conclude (sys.store.release var t) var job reply).locks
    refine h.out ht hjob (by rw [hstage]; rfl) rfl ?_ ?_
    · rw [hlocks]
      exact hsound
    · rw [hlocks]
      exact husers
  | idle hjob hstage =>
    exact h.enter ht rfl (fun _ _ _ => rfl) fun v j hj => by rw [hjob] at hj; cases hj

omit [Backend β] in
lemma Lined.clock (h : sys.Lined) (now : Nat) : ({ sys with now } : System β).Lined :=
  ⟨h.sound, h.line_iff, h.head⟩

/-- Every move keeps the lines. -/
lemma Lined.move (h : sys.Lined) (m : Move β) : (sys.move m).Lined := by
  cases m with
  | tick ms => exact h.clock _
  | outside change => exact ⟨h.sound, h.line_iff, h.head⟩
  | turn t =>
    rcases sys.step_cases t with ⟨hsame, -⟩ | ⟨task, ht, hready, hstep⟩
    · rw [System.move, hsame]
      exact h
    · rw [System.move, hstep]
      exact h.advance ht (advance_turn hready)

end System

end TypedVars
