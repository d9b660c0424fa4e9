import Mathlib.Data.List.Induction
import TypedVars.Proofs.Store.Lines

/-!
# Every run can be completed

However far the tasks of a system have come, some task that has no answer can take its turn after
some time: one that waits for a lock has somebody at the head of its line, and that one either holds
the lock and can go on, or can take the lock now (`System.exists_ready`).  Each turn brings its task
nearer to its answer, so from every state that can be reached there are turns, with time between
them, after which every task has its answer (`exists_done`).
-/

namespace TypedVars

namespace Stage

/-- Whether a task with this stage has its answer. -/
def isAnswered : Stage → Bool
  | answered .. => true
  | _ => false

lemma not_inLine_of_isAnswered {stage : Stage} (h : stage.isAnswered = true) :
    stage.inLine = false := by
  cases stage <;> first | rfl | cases h

end Stage

namespace System

variable {β : Type} {sys : System β} {t i : Ticket} {task : Task} {stage : Stage}
  {store : Store β}

/-- Every task has its answer. -/
def Done (sys : System β) : Prop := ∀ task ∈ sys.tasks, task.stage.isAnswered = true

/-- Only locked calls are at the stages of locked calls. -/
def Staged (sys : System β) : Prop :=
  ∀ task ∈ sys.tasks, task.stage.isLocked = true → task.call.job?.isSome = true

lemma Fresh.staged (h : sys.Fresh) : sys.Staged := by
  intro task hmem hlocked
  rw [h.tasks task hmem] at hlocked
  cases hlocked

/-! ## The rank -/

lemma rank_set {tasks : List Task} {task task' : Task} (ht : tasks[t]? = some task)
    (hlt : task'.stage.rank < task.stage.rank) :
    (tasks.set t task').foldr (fun task n => task.stage.rank + n) 0 <
      tasks.foldr (fun task n => task.stage.rank + n) 0 := by
  induction tasks generalizing t with
  | nil => cases ht
  | cons first rest ih =>
    cases t with
    | zero =>
      cases ht
      simp only [List.set_cons_zero, List.foldr_cons]
      omega
    | succ t =>
      have hrest := ih (t := t) ht
      simp only [List.set_cons_succ, List.foldr_cons]
      omega

lemma rank_enter (ht : sys.tasks[t]? = some task) (hlt : stage.rank < task.stage.rank) :
    (sys.enter t task stage store).rank < sys.rank := rank_set ht hlt

variable [Backend β]

/-- A turn brings its task nearer to its answer. -/
lemma Advance.rank_lt (hadv : Advance sys t task stage store)
    (hstaged : task.stage.isLocked = true → task.call.job?.isSome = true) :
    stage.rank < task.stage.rank := by
  cases hadv with
  | ask hstage | look hstage | rush hstage | granted hstage | refused hstage | found hstage
  | failed hstage | told hstage | wrote hstage | left hstage =>
    rw [hstage]
    simp [Stage.rank]
  | idle hjob hstage =>
    have hsome := hstaged hstage
    rw [hjob] at hsome
    cases hsome

lemma Advance.staged (hadv : Advance sys t task stage store) (hlocked : stage.isLocked = true) :
    task.call.job?.isSome = true ∨ task.stage.isLocked = true := by
  cases hadv with
  | ask _ hjob | granted _ hjob | refused _ hjob | found _ hjob | failed _ hjob | wrote _ hjob
  | left _ hjob => exact .inl (by rw [hjob]; rfl)
  | look | rush | told => cases hlocked
  | idle _ hstage => exact .inr hstage

lemma Staged.move (h : sys.Staged) (m : Move β) : (sys.move m).Staged := by
  cases m with
  | tick ms => exact h
  | outside change => exact h
  | turn t =>
    rcases sys.step_cases t with ⟨hsame, -⟩ | ⟨task, ht, hready, hstep⟩
    · rw [System.move, hsame]
      exact h
    · rw [System.move, hstep]
      obtain ⟨since, htasks⟩ := exists_enter ht (sys.turn t task).1 (sys.turn t task).2
      intro other hmem hlocked
      obtain ⟨i, hi⟩ := List.mem_iff_getElem?.1 hmem
      rw [htasks] at hi
      split at hi
      · cases hi
        rcases (advance_turn hready).staged hlocked with hsome | hlocked'
        · exact hsome
        · exact h task (List.mem_of_getElem? ht) hlocked'
      · exact h other (List.mem_of_getElem? hi) hlocked

lemma Fresh.staged_moves (h : sys.Fresh) (ms : List (Move β)) : (sys.moves ms).Staged := by
  induction ms using List.reverseRecOn with
  | nil => exact h.staged
  | append_singleton ms m ih =>
    rw [moves, List.foldl_append]
    exact Staged.move ih m

/-! ## Somebody can move -/

omit [Backend β] in
/-- One who holds the lock, or is to take it, can move after some time. -/
lemma exists_ready_of_head (hl : sys.Lined) {var : VarId} (ht : sys.tasks[t]? = some task)
    (hhead : (sys.store.locks.users var).head? = some t) :
    ∃ ms, ({ sys with now := sys.now + ms } : System β).isReady t task = true := by
  have hmem := List.mem_of_mem_head? hhead
  obtain ⟨task', -, ht', -, hline⟩ := (hl.line_iff var t).1 hmem
  rw [ht] at ht'
  cases ht'
  cases hstage : task.stage with
  | waiting | answered time reply =>
    rw [hstage] at hline
    cases hline
  | queued since =>
    refine ⟨0, ?_⟩
    have hholds := (hl.sound.holds_iff hmem).2 hhead
    simp [isReady, readyAt?, hstage, hholds]
  | reading due => exact ⟨due - sys.now, by simp [isReady, readyAt?, hstage]; omega⟩
  | deciding current => exact ⟨0, by simp [isReady, readyAt?, hstage]⟩
  | leaving reply => exact ⟨0, by simp [isReady, readyAt?, hstage]⟩

omit [Backend β] in
/-- While a task has no answer, some task can move after some time. -/
lemma exists_ready (hl : sys.Lined) (hs : sys.Staged) (hdone : ¬ sys.Done) :
    ∃ (ms : Nat) (t : Ticket) (task : Task), sys.tasks[t]? = some task ∧
      ({ sys with now := sys.now + ms } : System β).isReady t task = true := by
  simp only [Done, not_forall] at hdone
  obtain ⟨task, hmem, hopen⟩ := hdone
  obtain ⟨t, ht⟩ := List.mem_iff_getElem?.1 hmem
  cases hstage : task.stage with
  | waiting =>
    exact ⟨task.start - sys.now, t, task, ht, by simp [isReady, readyAt?, hstage]; omega⟩
  | reading due => exact ⟨due - sys.now, t, task, ht, by simp [isReady, readyAt?, hstage]; omega⟩
  | deciding current => exact ⟨0, t, task, ht, by simp [isReady, readyAt?, hstage]⟩
  | leaving reply => exact ⟨0, t, task, ht, by simp [isReady, readyAt?, hstage]⟩
  | answered time reply =>
    rw [hstage] at hopen
    exact absurd rfl hopen
  | queued since =>
    -- the head of the line can move, if the task itself cannot
    obtain ⟨⟨var, job⟩, hjob⟩ := Option.isSome_iff_exists.1 (hs task hmem (by rw [hstage]; rfl))
    have hin := hl.mem_users ht hjob (by rw [hstage]; rfl)
    obtain ⟨i, hhead⟩ : ∃ i, (sys.store.locks.users var).head? = some i := by
      cases hline : sys.store.locks.users var with
      | nil =>
        rw [hline] at hin
        cases hin
      | cons i rest => exact ⟨i, rfl⟩
    obtain ⟨other, -, hi, -⟩ := (hl.line_iff var i).1 (List.mem_of_mem_head? hhead)
    obtain ⟨ms, hready⟩ := exists_ready_of_head hl hi hhead
    exact ⟨ms, i, other, hi, hready⟩

/-- From every state there are turns after which every task has its answer. -/
theorem exists_done (hl : sys.Lined) (hs : sys.Staged) :
    ∃ rest : List (Move β), (∀ change, .outside change ∉ rest) ∧ (sys.moves rest).Done := by
  induction hrank : sys.rank using Nat.strongRecOn generalizing sys with
  | _ n ih =>
    by_cases hdone : sys.Done
    · exact ⟨[], fun change => List.not_mem_nil, hdone⟩
    · obtain ⟨ms, t, task, ht, hready⟩ := exists_ready hl hs hdone
      have hl' := (hl.move (.tick ms)).move (.turn t)
      have hs' := (hs.move (.tick ms)).move (.turn t)
      have hstep : ((sys.move (.tick ms)).step t).rank < sys.rank := by
        rcases (sys.move (.tick ms)).step_cases t with ⟨-, hnot⟩ | ⟨task', ht', hready', hstep⟩
        · have hready' : (sys.move (.tick ms)).isReady t task = true := hready
          rw [hnot task ht] at hready'
          cases hready'
        · rw [hstep]
          exact rank_enter ht' ((advance_turn hready').rank_lt
            (hs.move (.tick ms) task' (List.mem_of_getElem? ht')))
      obtain ⟨rest, hcalm, hrest⟩ := ih _ (hrank ▸ hstep) hl' hs' rfl
      refine ⟨.tick ms :: .turn t :: rest, ?_, hrest⟩
      intro change hmem
      simp only [List.mem_cons, reduceCtorEq, false_or] at hmem
      exact hcalm change hmem

end System

end TypedVars
