import TypedVars.Proofs.Store.Outcome
import TypedVars.Proofs.Store.Schedule

/-!
# Runs come to an end

Every turn lowers the rank of a system, which is at most five for each task at the start, so no run
has more turns than that, in whatever order they come (`Fresh.length_history_le`).  As long as some
task has no answer there is a next turn (`exists_next`), so taking the turns as they come ends with
an answer for every task (`run_done`).  An answer is given once and for all.

A task that may wait for its lock as long as it takes is never refused.
-/

namespace TypedVars

namespace System

variable {β : Type} {sys : System β} {t i : Ticket} {task other : Task} {stage : Stage}

/-! ## The number of turns -/

lemma rank_eq_zero_iff {stage : Stage} : stage.rank = 0 ↔ stage.isAnswered = true := by
  cases stage <;> simp [Stage.rank, Stage.isAnswered]

lemma done_of_rank_eq_zero (h : sys.rank = 0) : sys.Done := by
  unfold rank at h
  unfold Done
  generalize sys.tasks = tasks at h ⊢
  induction tasks with
  | nil => exact fun task hmem => nomatch hmem
  | cons first rest ih =>
    rw [List.foldr_cons, Nat.add_eq_zero_iff] at h
    intro task hmem
    rcases List.mem_cons.1 hmem with rfl | hmem
    · exact rank_eq_zero_iff.1 h.1
    · exact ih h.2 task hmem

lemma Fresh.rank_eq (h : sys.Fresh) : sys.rank = 5 * sys.tasks.length := by
  have hwait := h.tasks
  unfold rank
  generalize sys.tasks = tasks at hwait ⊢
  induction tasks with
  | nil => rfl
  | cons first rest ih =>
    rw [List.foldr_cons, ih fun task hmem => hwait task (List.mem_cons_of_mem first hmem),
      hwait first List.mem_cons_self, List.length_cons, Stage.rank]
    omega

variable [Backend β]

lemma Staged.rank_move (hs : sys.Staged) (m : Move β) :
    (sys.deed? m).toList.length + (sys.move m).rank ≤ sys.rank := by
  rcases sys.move_cases m with ⟨hdeed, htasks, -⟩ | ⟨t, task, rfl, ht, hready, hdeed, -⟩
  · rw [hdeed, rank, htasks]
    exact Nat.le_of_eq (Nat.zero_add _)
  · rw [hdeed]
    have hlt := hs.rank_step ht hready
    rw [Option.toList_some, List.length_singleton, Nat.add_comm]
    exact hlt

lemma Staged.length_history_add_rank (hs : sys.Staged) (ms : List (Move β)) :
    (sys.history ms).length + (sys.moves ms).rank ≤ sys.rank := by
  induction ms generalizing sys with
  | nil => exact Nat.le_of_eq (Nat.zero_add _)
  | cons m ms ih =>
    have hmove := hs.rank_move m
    have hrest := ih (hs.move m)
    rw [history, List.length_append]
    change _ + ((sys.move m).moves ms).rank ≤ _
    omega

/-! ## The turns as they come -/

/-- To take the turns as they come is to make some moves, with time between them. -/
lemma exists_moves_eq_runFor (n : Nat) (sys : System β) :
    ∃ rest : List (Move β), (∀ change, .outside change ∉ rest) ∧ sys.runFor n = sys.moves rest := by
  induction n generalizing sys with
  | zero => exact ⟨[], fun change => List.not_mem_nil, rfl⟩
  | succ n ih =>
    rw [runFor_succ]
    cases hnext : sys.next? with
    | none => exact ⟨[], fun change => List.not_mem_nil, rfl⟩
    | some turn =>
      obtain ⟨⟨task, ht, hturn⟩, -⟩ := next?_eq_some_iff.1 hnext
      have hle := (isReady_of_candidate hturn).1
      have htake : sys.moves [.tick (turn.time - sys.now), .turn turn.ticket] = sys.take turn := by
        simp only [moves, List.foldl_cons, List.foldl_nil, move, Nat.add_sub_cancel' hle, take]
      obtain ⟨rest, hcalm, hrest⟩ := ih (sys.take turn)
      refine ⟨.tick (turn.time - sys.now) :: .turn turn.ticket :: rest, ?_, ?_⟩
      · intro change hmem
        simp only [List.mem_cons, reduceCtorEq, false_or] at hmem
        exact hcalm change hmem
      · dsimp only
        rw [hrest, ← htake]
        rfl

lemma runFor_done (n : Nat) (hl : sys.Lined) (hs : sys.Staged) (hrank : sys.rank ≤ n) :
    (sys.runFor n).Done := by
  induction n generalizing sys with
  | zero => exact done_of_rank_eq_zero (Nat.le_zero.1 hrank)
  | succ n ih =>
    rw [runFor_succ]
    cases hnext : sys.next? with
    | none =>
      by_contra hdone
      obtain ⟨turn, hturn⟩ := exists_next hl hs hdone
      rw [hnext] at hturn
      cases hturn
    | some turn =>
      obtain ⟨⟨task, ht, hturn⟩, -⟩ := next?_eq_some_iff.1 hnext
      have hlt := hs.rank_take ht hturn
      exact ih (hl.take turn) (hs.take turn) (Nat.le_of_lt_succ (hlt.trans_le hrank))

/-! ## One answer for each task -/

omit [Backend β] in
lemma not_answered_of_isReady (h : sys.isReady t task = true) : task.stage.isAnswered = false := by
  cases hstage : task.stage with
  | answered time reply => simp [isReady, readyAt?, hstage] at h
  | waiting | queued since | reading due | deciding current | leaving reply => rfl

/-- A task that has its answer stays as it is. -/
lemma answered_moves (ms : List (Move β)) (ht : sys.tasks[t]? = some task)
    (h : task.stage.isAnswered = true) : (sys.moves ms).tasks[t]? = some task := by
  induction ms generalizing sys with
  | nil => exact ht
  | cons m ms ih =>
    apply ih
    rcases sys.move_cases m with ⟨-, htasks, -⟩ | ⟨i, other, -, hi, hready, -, hmove⟩
    · rw [htasks]
      exact ht
    · obtain ⟨since, htasks⟩ := exists_enter hi (sys.turn i other).1 (sys.turn i other).2
      rw [hmove, htasks, if_neg]
      · exact ht
      · rintro rfl
        cases ht.symm.trans hi
        rw [not_answered_of_isReady hready] at h
        cases h

/-- The turns in which a task got an answer. -/
def answers (h : List Deed) (t : Ticket) : List Deed :=
  h.filter fun d => d.ticket = t && d.after.isAnswered

/-- A task gets one answer, in the turn by which it comes to have one. -/
lemma Fresh.length_answers (hfresh : sys.Fresh) (ms : List (Move β))
    (ht : (sys.moves ms).tasks[t]? = some task) :
    (answers (sys.history ms) t).length = if task.stage.isAnswered then 1 else 0 := by
  induction ms using List.reverseRecOn generalizing task with
  | nil =>
    rw [hfresh.tasks task (List.mem_of_getElem? ht)]
    rfl
  | append_singleton ms m ih =>
    rw [moves_concat] at ht
    rw [history_concat, answers, List.filter_append, List.length_append]
    change (answers (sys.history ms) t).length + _ = _
    rcases (sys.moves ms).move_cases m with ⟨hdeed, htasks, -⟩ |
      ⟨i, other, -, hi, hready, hdeed, hmove⟩
    · rw [hdeed, ih (htasks ▸ ht)]
      rfl
    · obtain ⟨since, htasks⟩ := exists_enter hi ((sys.moves ms).turn i other).1
        ((sys.moves ms).turn i other).2
      rw [hmove, htasks] at ht
      rw [hdeed, Option.toList_some]
      by_cases hti : t = i
      · subst hti
        rw [if_pos rfl] at ht
        cases ht
        rw [ih hi, not_answered_of_isReady hready]
        cases hans : ((sys.moves ms).turn t other).1.isAnswered <;> simp [hans]
      · rw [if_neg hti] at ht
        have hother : (decide (i = t) && ((sys.moves ms).turn i other).1.isAnswered) = false := by
          rw [decide_eq_false fun e => hti e.symm, Bool.false_and]
        rw [ih ht, List.filter_cons_of_neg (by simp [hother])]
        rfl

/-! ## Nobody is refused who can wait -/

/-- A failure that the backend answers in a turn is one that it answers to a call on it. -/
lemma exists_call_of_failure? {e : StoreError} (h : sys.failure? task = some e) :
    ∃ c, (Backend.call sys.store.backend c).1 = .error e := by
  have hcall : ∀ {c : Call}, c.job? = none → sys.store.fault? c = some e →
      ∃ c, (Backend.call sys.store.backend c).1 = .error e := by
    intro c hjob hfault
    rw [Store.fault?, hjob] at hfault
    obtain ⟨bc, -, hbc⟩ := Option.bind_eq_some_iff.1 hfault
    exact ⟨bc, eq_error_of_failure? hbc⟩
  unfold failure? at h
  split at h
  · next hjob =>
    split at h
    · cases h
    · exact hcall hjob h
  · next hjob => exact hcall hjob h
  · rw [Store.readFailure?_eq] at h
    exact ⟨_, eq_error_of_failure? h⟩
  · rw [Store.writeFailure?_eq] at h
    exact ⟨_, eq_error_of_failure? h⟩
  · cases h

/-- A task without a time limit is not refused its lock. -/
lemma Fresh.not_refused [AtomicBackend β] (hfresh : sys.Fresh) (ms : List (Move β))
    (hbackend : ∀ (b : β) c var limit, (Backend.call b c).1 ≠ .error (.lockTimeout var limit))
    (ht : sys.tasks[t]? = some task) (hlimit : sys.limitOf task = none)
    (ht' : (sys.moves ms).tasks[t]? = some other) (var : VarId) (limit : Nat) :
    other.stage.outcome? ≠ some (.error (.lockTimeout var limit)) := by
  intro houtcome
  obtain ⟨ms₁, ms₂, task₁, -, ht₁, -, hfailure | hown⟩ :=
    (hfresh.failsAtomically ms).caused t other _ ht' houtcome
  · obtain ⟨c, hc⟩ := exists_call_of_failure? hfailure
    exact hbackend _ c var limit hc
  · rcases hown with hdemand | ⟨v, raw, -, -, -, he⟩ | ⟨v, job, since, l, -, -, -, hl, -, -⟩
    · rcases Call.demand_eq_error hdemand with he | ⟨kind, he⟩ <;> cases he
    · cases he
    · obtain ⟨task', ht', -, hsame⟩ := exists_limitOf_of_moves ms₁ ht₁
      cases ht.symm.trans ht'
      rw [hsame, hlimit] at hl
      cases hl

/-! ## Completing a run -/

/-- What keeps a run from getting stuck, however far it has come. -/
structure Completes (sys : System β) (ms : List (Move β)) : Prop where
  /-- While a task has no answer there is a next turn, now or after some time, and its task can take
  it then. -/
  next : ¬ (sys.moves ms).Done → ∃ turn task, (sys.moves ms).next? = some turn ∧
    (sys.moves ms).now ≤ turn.time ∧ (sys.moves ms).tasks[turn.ticket]? = some task ∧
    ({ sys.moves ms with now := turn.time } : System β).isReady turn.ticket task = true
  /-- In whatever order they come, there are at most five turns for each task. -/
  bounded : (sys.history ms).length ≤ 5 * sys.tasks.length
  /-- The turns as they come lead to a state in which every task has its answer. -/
  ends : (sys.moves ms).run.Done ∧ ∃ rest, (∀ change, .outside change ∉ rest) ∧
    (sys.moves ms).run = sys.moves (ms ++ rest)
  /-- A task gets one answer. -/
  once : ∀ (t : Ticket) (task : Task), (sys.moves ms).tasks[t]? = some task →
    (answers (sys.history ms) t).length = if task.stage.isAnswered then 1 else 0
  /-- It keeps the answer that it has. -/
  final : ∀ (t : Ticket) (task : Task) (more : List (Move β)),
    (sys.moves ms).tasks[t]? = some task → task.stage.isAnswered = true →
      (sys.moves (ms ++ more)).tasks[t]? = some task
  /-- When every task has its answer the lock table is empty, and nobody holds a lock. -/
  released : (sys.moves ms).Done → (sys.moves ms).store.locks.isEmpty = true ∧
    ∀ t, (sys.moves ms).store.locks.holds t = false
  /-- A task without a time limit never answers that its lock was not free in time, over a backend
  that does not answer this itself. -/
  patient : (∀ (b : β) c var limit, (Backend.call b c).1 ≠ .error (.lockTimeout var limit)) →
    ∀ (t : Ticket) (task : Task), sys.tasks[t]? = some task → sys.limitOf task = none →
      ∀ (task' : Task) (time : Nat) (var : VarId) (limit : Nat),
        (sys.moves ms).tasks[t]? = some task' →
          task'.stage ≠ .answered time (.error (.lockTimeout var limit))

/-- Whatever the calls, the times at which they start, the time limits, the backend and what happens
to it, and in whatever order the turns come: a run does not get stuck. -/
theorem moves_complete [AtomicBackend β] (hfresh : sys.Fresh) (ms : List (Move β)) :
    sys.Completes ms where
  next hopen := by
    obtain ⟨turn, hnext⟩ := exists_next (hfresh.lined_moves ms) (hfresh.staged_moves ms) hopen
    obtain ⟨⟨task, ht, hturn⟩, -⟩ := next?_eq_some_iff.1 hnext
    obtain ⟨hle, hready⟩ := isReady_of_candidate hturn
    exact ⟨turn, task, hnext, hle, ht, hready⟩
  bounded := by
    have hlength := hfresh.staged.length_history_add_rank ms
    rw [hfresh.rank_eq] at hlength
    omega
  ends := by
    refine ⟨runFor_done _ (hfresh.lined_moves ms) (hfresh.staged_moves ms) (Nat.le_refl _), ?_⟩
    obtain ⟨rest, hcalm, hrest⟩ := exists_moves_eq_runFor (sys.moves ms).rank (sys.moves ms)
    exact ⟨rest, hcalm, hrest.trans (moves_append sys ms rest).symm⟩
  once t task := hfresh.length_answers ms
  final t task more ht h := by
    rw [moves_append]
    exact answered_moves more ht h
  released hdone := by
    apply Locks.Unused.released
    apply (hfresh.lined_moves ms).unused
    intro task hmem _
    exact Stage.not_inLine_of_isAnswered (hdone task hmem)
  patient hbackend t task ht hlimit task' time var limit ht' hstage := by
    apply hfresh.not_refused ms hbackend ht hlimit ht' var limit
    rw [hstage]
    rfl

/-- An increment, an update that waits for it no longer than some time, and a read, over a backend
whose reads take longer. -/
def slowReads : System Memory where
  store := { backend := {}, limit := none }
  tasks := [{ call := .increment ⟨.global, "n"⟩ (.int64 1) },
    { call := .update ⟨.global, "n"⟩ fun _ => none, start := 5, limit := some (some 10) },
    { call := .get ⟨.global, "n"⟩, start := 7 }]
  delay := 20

theorem slowReads_complete : slowReads.Fresh ∧ ¬ (slowReads.moves [.turn 0, .turn 0]).Done ∧
    slowReads.limitOf { call := .increment ⟨.global, "n"⟩ (.int64 1) } = none ∧
    (∀ (b : Memory) c var limit, (Backend.call b c).1 ≠ .error (.lockTimeout var limit)) ∧
    slowReads.Completes [.turn 0, .turn 0] := by
  have hfresh : slowReads.Fresh := ⟨⟨rfl, rfl⟩, by simp [slowReads]⟩
  refine ⟨hfresh, ?_, rfl, ?_, moves_complete hfresh _⟩
  · intro hdone
    have hlast : (slowReads.moves [.turn 0, .turn 0]).tasks[2]? =
        some { call := .get ⟨.global, "n"⟩, start := 7 } := rfl
    cases hdone _ (List.mem_of_getElem? hlast)
  · intro b c var limit h
    cases c <;> cases h

end System

end TypedVars
