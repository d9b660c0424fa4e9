import TypedVars.Proofs.Store.Lines
import TypedVars.Proofs.Store.Serial

/-!
# What happened in a system

The history of some moves lists the turns that were taken (`Deed`), each with the stage that its
task left, the stage that it got to, and the failure that the backend answered to it, if it made a
call that failed.  Two things of a variable are read off a history: the tickets to which its lock
was granted, in order (`grants`), and the calls that were served under the lock, in the order in
which they came to their answers (`services`).
-/

namespace TypedVars

/-- A turn that a task took. -/
structure Deed where
  ticket : Ticket
  call : Call
  before : Stage
  after : Stage
  /-- The failure that the backend answered, if the turn made a call that failed. -/
  fault : Option Fault

namespace Stage

/-- The value that a task knows which holds the lock. -/
def current? : Stage → Option (Option Value)
  | deciding current => some current
  | _ => none

end Stage

namespace Deed

/-- The ticket, of a turn by which the lock of a variable was granted. -/
def grant? (d : Deed) (var : VarId) : Option Ticket :=
  match d.call.job?, d.after with
  | some (v, _), .reading _ => if v = var then some d.ticket else none
  | _, _ => none

/-- The service, of a turn by which a locked call of a variable came to its answer. -/
def service? (d : Deed) (var : VarId) : Option Service :=
  match d.call.job?, d.after with
  | some (v, job), .leaving reply =>
    if v = var then some ⟨d.ticket, job, d.fault, d.before.current?, reply⟩ else none
  | _, _ => none

variable {d : Deed} {var : VarId} {x : Service}

/-- What a service takes over from its turn. -/
lemma of_service? (h : d.service? var = some x) :
    d.call.job? = some (var, x.job) ∧ d.ticket = x.ticket ∧ d.fault = x.fault := by
  unfold service? at h
  split at h
  · next v job reply hjob _ =>
    split at h
    · next hv =>
      cases h
      exact ⟨hv ▸ hjob, rfl, rfl⟩
    · cases h
  · cases h

end Deed

/-- The tickets to which the lock of a variable was granted, in order. -/
def grants (h : List Deed) (var : VarId) : List Ticket := h.filterMap (·.grant? var)

/-- The locked calls of a variable that came to their answers, in order. -/
def services (h : List Deed) (var : VarId) : List Service := h.filterMap (·.service? var)

namespace System

variable {β : Type} [Backend β]

/-- The failure that the backend answers to the call that a task makes in its turn, if it makes one
that fails. -/
def fault? (sys : System β) (task : Task) : Option Fault :=
  match task.stage with
  | .reading _ =>
    task.call.var?.bind fun var => (sys.store.readFailure? var).map fun e => ⟨.get, e⟩
  | .deciding current =>
    task.call.job?.bind fun (var, job) =>
      (sys.store.writeFailure? var (job.decide current).written).map
        (Fault.ofWrite (job.decide current).written)
  | _ => none

/-- The turn that is taken by a move, if it is one. -/
def deed? (sys : System β) : Move β → Option Deed
  | .turn t =>
    match sys.tasks[t]? with
    | some task =>
      if sys.isReady t task then
        some ⟨t, task.call, task.stage, (sys.turn t task).1, sys.fault? task⟩
      else none
    | none => none
  | _ => none

/-- The turns that are taken by some moves. -/
def history (sys : System β) : List (Move β) → List Deed
  | [] => []
  | m :: ms => (sys.deed? m).toList ++ (sys.move m).history ms

@[simp] lemma moves_append (sys : System β) (ms ms' : List (Move β)) :
    sys.moves (ms ++ ms') = (sys.moves ms).moves ms' := List.foldl_append ..

lemma moves_concat (sys : System β) (ms : List (Move β)) (m : Move β) :
    sys.moves (ms ++ [m]) = (sys.moves ms).move m := by
  rw [moves_append]
  rfl

lemma history_append (sys : System β) (ms ms' : List (Move β)) :
    sys.history (ms ++ ms') = sys.history ms ++ (sys.moves ms).history ms' := by
  induction ms generalizing sys with
  | nil => rfl
  | cons m ms ih =>
    rw [List.cons_append, history, history, ih, List.append_assoc]
    rfl

lemma history_concat (sys : System β) (ms : List (Move β)) (m : Move β) :
    sys.history (ms ++ [m]) = sys.history ms ++ ((sys.moves ms).deed? m).toList := by
  rw [history_append, history, history, List.append_nil]

/-- A move does nothing to the tasks, or it is a turn of one of them. -/
lemma move_cases (sys : System β) (m : Move β) :
    (sys.deed? m = none ∧ (sys.move m).tasks = sys.tasks ∧
      (sys.move m).store.limit = sys.store.limit ∧
      ((sys.move m).store.backend = sys.store.backend ∨
        ∃ change, m = .outside change ∧ (sys.move m).store.backend = change sys.store.backend)) ∨
    ∃ t task, m = .turn t ∧ sys.tasks[t]? = some task ∧ sys.isReady t task = true ∧
      sys.deed? m = some ⟨t, task.call, task.stage, (sys.turn t task).1, sys.fault? task⟩ ∧
      sys.move m = sys.enter t task (sys.turn t task).1 (sys.turn t task).2 := by
  cases m with
  | tick ms => exact .inl ⟨rfl, rfl, rfl, .inl rfl⟩
  | outside change => exact .inl ⟨rfl, rfl, rfl, .inr ⟨change, rfl, rfl⟩⟩
  | turn t =>
    rcases sys.step_cases t with ⟨hsame, hnot⟩ | ⟨task, ht, hready, hstep⟩
    · refine .inl ⟨?_, congrArg System.tasks hsame, congrArg (·.store.limit) hsame,
        .inl (congrArg (·.store.backend) hsame)⟩
      cases ht : sys.tasks[t]? with
      | none => simp only [deed?, ht]
      | some task => simp [deed?, ht, hnot task ht]
    · refine .inr ⟨t, task, rfl, ht, hready, ?_, hstep⟩
      simp [deed?, ht, hready]

/-- A turn in the history was taken by a task at some time. -/
lemma exists_of_mem_history {sys : System β} {ms : List (Move β)} {d : Deed}
    (hd : d ∈ sys.history ms) :
    ∃ ms₁ t ms₂ task, ms = ms₁ ++ .turn t :: ms₂ ∧ (sys.moves ms₁).tasks[t]? = some task ∧
      d = ⟨t, task.call, task.stage, ((sys.moves ms₁).turn t task).1,
        (sys.moves ms₁).fault? task⟩ := by
  induction ms generalizing sys with
  | nil => cases hd
  | cons m ms ih =>
    rcases List.mem_append.1 hd with hd | hd
    · have hdeed := Option.mem_toList.1 hd
      rcases sys.move_cases m with ⟨hnone, -⟩ | ⟨t, task, rfl, ht, -, hdeed', -⟩
      · rw [hnone] at hdeed
        cases hdeed
      · rw [hdeed'] at hdeed
        exact ⟨[], t, ms, task, rfl, ht, (Option.some.inj hdeed).symm⟩
    · obtain ⟨ms₁, t, ms₂, task, rfl, ht, rfl⟩ := ih hd
      exact ⟨m :: ms₁, t, ms₂, task, rfl, ht, rfl⟩

/-- The time limit of a store is never changed. -/
lemma Advance.limit {sys : System β} {t : Ticket} {task : Task} {stage : Stage} {store : Store β}
    (h : Advance sys t task stage store) : store.limit = sys.store.limit := by
  cases h with
  | ask | look | granted | refused | idle => rfl
  | rush hstage hjob => exact (Store.sameLocks_call _ hjob).2
  | told hstage hjob => exact (Store.sameLocks_call _ hjob).2
  | found | failed => exact (Store.moved_fetch _ _).limit
  | wrote => exact (Store.moved_commit _ _ _ _).limit
  | @left var job reply =>
    exact (Store.moved_conclude (sys.store.release var t) var job reply).limit

/-- A task keeps its call and its time limit. -/
lemma exists_of_move {sys : System β} {m : Move β} {i : Ticket} {task : Task}
    (hi : (sys.move m).tasks[i]? = some task) :
    ∃ task', sys.tasks[i]? = some task' ∧ task.call = task'.call ∧ task.limit = task'.limit := by
  rcases sys.move_cases m with ⟨-, htasks, -⟩ | ⟨t, task', -, ht, -, -, hmove⟩
  · rw [htasks] at hi
    exact ⟨task, hi, rfl, rfl⟩
  · obtain ⟨since, htasks⟩ := exists_enter ht (sys.turn t task').1 (sys.turn t task').2
    rw [hmove, htasks] at hi
    split at hi
    · next hit =>
      cases hi
      exact ⟨task', hit ▸ ht, rfl, rfl⟩
    · exact ⟨task, hi, rfl, rfl⟩

lemma exists_of_moves {sys : System β} (ms : List (Move β)) {i : Ticket} {task : Task}
    (hi : (sys.moves ms).tasks[i]? = some task) :
    ∃ task', sys.tasks[i]? = some task' ∧ task.call = task'.call ∧ task.limit = task'.limit := by
  induction ms generalizing sys with
  | nil => exact ⟨task, hi, rfl, rfl⟩
  | cons m ms ih =>
    obtain ⟨task', hi', hcall, hlimit⟩ := ih hi
    obtain ⟨task'', hi'', hcall', hlimit'⟩ := exists_of_move hi'
    exact ⟨task'', hi'', hcall.trans hcall', hlimit.trans hlimit'⟩

lemma length_moves (sys : System β) (ms : List (Move β)) :
    (sys.moves ms).tasks.length = sys.tasks.length := by
  induction ms generalizing sys with
  | nil => rfl
  | cons m ms ih =>
    apply (ih (sys.move m)).trans
    rcases sys.move_cases m with ⟨-, htasks, -⟩ | ⟨t, task, -, -, -, -, hmove⟩
    · rw [htasks]
    · rw [hmove]
      exact List.length_set ..

/-- The time limit of a task does not change. -/
lemma exists_limitOf_of_moves {sys : System β} (ms : List (Move β)) {i : Ticket} {task : Task}
    (hi : (sys.moves ms).tasks[i]? = some task) :
    ∃ task', sys.tasks[i]? = some task' ∧ task.call = task'.call ∧
      (sys.moves ms).limitOf task = sys.limitOf task' := by
  have hstore : (sys.moves ms).store.limit = sys.store.limit := by
    clear hi
    induction ms generalizing sys with
    | nil => rfl
    | cons m ms ih =>
      apply ih.trans
      rcases sys.move_cases m with ⟨-, -, hlimit, -⟩ | ⟨t, task, -, -, hready, -, hmove⟩
      · exact hlimit
      · rw [hmove]
        exact (advance_turn hready).limit
  obtain ⟨task', hi', hcall, hlimit⟩ := exists_of_moves ms hi
  exact ⟨task', hi', hcall, by rw [limitOf, limitOf, hstore, hlimit]⟩

/-- A service is one of a task, and of a turn that it took. -/
lemma exists_of_mem_services {sys : System β} {ms : List (Move β)} {var : VarId} {x : Service}
    (hx : x ∈ services (sys.history ms) var) :
    (∃ task, sys.tasks[x.ticket]? = some task ∧ task.call.job? = some (var, x.job)) ∧
      ∃ d ∈ sys.history ms, d.call.job? = some (var, x.job) ∧ d.fault = x.fault := by
  obtain ⟨d, hd, hservice⟩ := List.mem_filterMap.1 hx
  obtain ⟨hjob, hticket, hfault⟩ := Deed.of_service? hservice
  refine ⟨?_, d, hd, hjob, hfault⟩
  obtain ⟨ms₁, t, ms₂, task, -, ht, rfl⟩ := exists_of_mem_history hd
  obtain ⟨task', ht', hcall, -⟩ := exists_of_moves ms₁ ht
  exact ⟨task', hticket ▸ ht', hcall ▸ hjob⟩

end System

end TypedVars
