import TypedVars.Proofs.Store.Failure
import TypedVars.Proofs.Store.History
import TypedVars.Proofs.Store.Progress

/-!
# How tasks fail

In its turn a task makes one call on the backend or none (`Task.ask?`,
`System.Advance.backend_asked`).  The outcome of a task is the reply that it leaves with, from the
turn on in which the reply is known (`Stage.outcome?`); it never changes after that turn.  Where the
outcome is a failure, it is the one that the backend answered in that turn, or the call's own: it
was refused, it read a text that cannot be decoded, or it waited for its lock as long as it may
(`System.Advance.cause`).

A task that fails has changed no text and counted no increment in any of its turns, however they lie
between the turns of others, and is in no line any more (`Store.failures_atomic`).
-/

namespace TypedVars

/-- The reply that a task leaves with, once it is known. -/
def Stage.outcome? : Stage → Option Reply
  | leaving reply | answered _ reply => some reply
  | _ => none

/-- The call on the backend that a task makes in its turn, if it makes one. -/
def Task.ask? (task : Task) : Option BackendCall :=
  match task.stage, task.call.job? with
  | .waiting, none => if task.call.isRead then none else task.call.demand.toOption
  | .reading _, _ => task.call.demand.toOption
  | .deciding current, some (var, job) => some (.ofWrite var (job.decide current).written)
  | _, _ => none

namespace System

variable {β : Type} [Backend β] {sys : System β} {t i : Ticket} {task other : Task} {stage : Stage}
  {store : Store β} {var : VarId} {job : Job} {e : StoreError} {reply : Reply}

/-- The failure that the backend answers in the turn of a task, if it answers any. -/
def failure? (sys : System β) (task : Task) : Option StoreError :=
  match task.stage, task.call.job? with
  | .waiting, none => if task.call.isRead then none else sys.store.fault? task.call
  | .reading _, none => sys.store.fault? task.call
  | .reading _, some (var, _) => sys.store.readFailure? var
  | .deciding current, some (var, job) =>
    sys.store.writeFailure? var (job.decide current).written
  | _, _ => none

/-- A failure that is not the backend's: the call is refused, it reads a text that cannot be
decoded, or it has waited for the lock as long as it may. -/
def FailsByItself (sys : System β) (t : Ticket) (task : Task) (e : StoreError) : Prop :=
  task.call.demand = .error e ∨ sys.store.ReadsUndecodable task.call e ∨
    ∃ var job since limit, task.call.job? = some (var, job) ∧ task.stage = .queued since ∧
      sys.store.locks.holds t = false ∧ sys.limitOf task = some limit ∧ since + limit ≤ sys.now ∧
      e = .lockTimeout var limit

/-! ## What a turn asks for -/

/-- A turn makes the one call on the backend that its task asks for, and no other. -/
lemma Advance.backend_asked (hadv : Advance sys t task stage store) : store.backend =
    task.ask?.elim sys.store.backend fun bc => (Backend.call sys.store.backend bc).2 := by
  have hcall : task.call.job? = none → (sys.store.call task.call).2.backend =
      task.call.demand.toOption.elim sys.store.backend
        fun bc => (Backend.call sys.store.backend bc).2 := by
    intro hjob
    cases hdemand : task.call.demand with
    | error e =>
      rw [Store.call_of_refused hdemand]
      rfl
    | ok bc =>
      rw [Store.call_eq_heard hjob hdemand, Store.backend_heard]
      rfl
  cases hadv with
  | ask hstage hjob | granted hstage hjob | refused hstage hjob =>
    simp [Task.ask?, hstage, hjob, Store.request, Store.granted, Store.refused, Store.note]
  | look hstage hjob hread => simp [Task.ask?, hstage, hjob, hread]
  | rush hstage hjob hread =>
    rw [hcall hjob]
    simp [Task.ask?, hstage, hjob, hread]
  | told hstage hjob =>
    rw [hcall hjob]
    simp [Task.ask?, hstage]
  | found hstage hjob | failed hstage hjob =>
    rw [(Store.moved_fetch _ _).backend]
    simp [Task.ask?, hstage, Call.demand_of_job? hjob, Except.toOption, Backend.call]
  | @wrote var job current hstage hjob =>
    rw [(Store.moved_commit _ _ _ _).backend, Store.written_eq_call]
    simp [Task.ask?, hstage, hjob]
  | @left var job reply hstage hjob =>
    rw [(Store.moved_conclude (sys.store.release var t) var job reply).backend]
    simp [Task.ask?, hstage, hjob, Store.release]
  | idle hjob hstage =>
    cases hs : task.stage <;> rw [hs] at hstage <;> cases hstage <;>
      simp [Task.ask?, hs, hjob]

/-! ## The turn of the outcome -/

/-- A failure that the backend answers in a turn is the outcome, and nobody is told of a text that
could not be decoded. -/
lemma Advance.returned (hadv : Advance sys t task stage store) (h : sys.failure? task = some e) :
    stage.outcome? = some (.error e) ∧
      store.journal.decodeFailures = sys.store.journal.decodeFailures := by
  cases hadv with
  | ask hstage hjob | granted hstage hjob | refused hstage hjob | left hstage hjob =>
    simp [failure?, hstage, hjob] at h
  | look hstage hjob hread => simp [failure?, hstage, hjob, hread] at h
  | idle hjob hstage =>
    cases hs : task.stage <;> rw [hs] at hstage <;> cases hstage <;>
      simp [failure?, hs, hjob] at h
  | rush hstage hjob hread =>
    have hfault : sys.store.fault? task.call = some e := by
      simpa [failure?, hstage, hjob, hread] using h
    obtain ⟨hreply, hjournal⟩ := Store.call_of_fault hjob hfault
    exact ⟨congrArg some hreply, by rw [hjournal]⟩
  | told hstage hjob =>
    have hfault : sys.store.fault? task.call = some e := by
      simpa [failure?, hstage, hjob] using h
    obtain ⟨hreply, hjournal⟩ := Store.call_of_fault hjob hfault
    exact ⟨congrArg some hreply, by rw [hjournal]⟩
  | @found var job due current hstage hjob hfetch =>
    have hread : sys.store.readFailure? var = some e := by
      simpa [failure?, hstage, hjob] using h
    rw [Store.fetch_of_failure hread] at hfetch
    cases hfetch
  | @failed var job due e' hstage hjob hfetch =>
    have hread : sys.store.readFailure? var = some e := by
      simpa [failure?, hstage, hjob] using h
    rw [Store.fetch_of_failure hread] at hfetch
    cases hfetch
    refine ⟨rfl, ?_⟩
    rw [Store.journal_fetch]
    intro raw hget
    rw [Store.readFailure?, hget] at hread
    cases hread
  | @wrote var job current hstage hjob =>
    have hwrite : sys.store.writeFailure? var (job.decide current).written = some e := by
      simpa [failure?, hstage, hjob] using h
    exact ⟨congrArg some (Store.commit_of_failure hwrite), Store.decodeFailures_commit _ _⟩

lemma Advance.outcome (hadv : Advance sys t task stage store)
    (h : task.stage.outcome? = some reply) : stage.outcome? = some reply := by
  cases hadv with
  | left hstage hjob =>
    rw [hstage] at h
    exact h
  | idle hjob hstage => exact h
  | ask hstage | look hstage | rush hstage | granted hstage | refused hstage | found hstage
  | failed hstage | told hstage | wrote hstage =>
    rw [hstage] at h
    cases h

variable [AtomicBackend β]

/-- Where the failure of a task comes from. -/
lemma Advance.cause (hadv : Advance sys t task stage store) (hready : sys.isReady t task = true)
    (hnew : task.stage.outcome? = none) (h : stage.outcome? = some (.error e)) :
    sys.failure? task = some e ∨ sys.FailsByItself t task e := by
  cases hadv with
  | ask | look | granted | found => cases h
  | left hstage hjob =>
    rw [hstage] at hnew
    cases hnew
  | idle hjob hstage =>
    rw [hnew] at h
    cases h
  | rush hstage hjob hread =>
    rcases Store.cause_of_unlocked hjob (Option.some.inj h) with hfault | hrefused | hraw
    · refine .inl ?_
      simpa [failure?, hstage, hjob, hread] using hfault
    · exact .inr (.inl hrefused)
    · exact .inr (.inr (.inl hraw))
  | told hstage hjob =>
    rcases Store.cause_of_unlocked hjob (Option.some.inj h) with hfault | hrefused | hraw
    · refine .inl ?_
      simpa [failure?, hstage, hjob] using hfault
    · exact .inr (.inl hrefused)
    · exact .inr (.inr (.inl hraw))
  | @refused var job since limit hstage hjob hholds hlimit =>
    cases h
    have hdue : since + limit ≤ sys.now := by
      simpa [isReady, readyAt?, hstage, hholds, hlimit] using hready
    exact .inr (.inr (.inr ⟨var, job, since, limit, hjob, hstage, hholds, hlimit, hdue, rfl⟩))
  | @failed var job due e' hstage hjob hfetch =>
    cases h
    have hread := Store.readFailure?_of_error hfetch
    exact .inl (by simpa [failure?, hstage, hjob] using hread)
  | @wrote var job current hstage hjob =>
    have hwrite := Store.writeFailure?_of_error (Option.some.inj h)
    exact .inl (by simpa [failure?, hstage, hjob] using hwrite)

/-- A turn changes no text and counts no increment, unless its task succeeds. -/
lemma Advance.untouched (hadv : Advance sys t task stage store)
    (h : ∀ reply, stage.outcome? = some reply → ∃ e, reply = .error e) :
    Backend.stored store.backend = Backend.stored sys.store.backend ∧
      store.journal.counters.increments = sys.store.journal.counters.increments := by
  cases hadv with
  | ask | look | granted | refused | idle => exact ⟨rfl, rfl⟩
  | rush hstage hjob | told hstage hjob =>
    obtain ⟨e, he⟩ := h _ rfl
    exact Store.untouched_of_error hjob he
  | @found var | @failed var =>
    refine ⟨?_, congrArg Counters.increments (Store.counters_fetch sys.store var)⟩
    rw [(Store.moved_fetch sys.store var).backend, AtomicBackend.stored_get]
  | @wrote var job current hstage hjob =>
    obtain ⟨e, he⟩ := h _ rfl
    refine ⟨?_, (Store.counters_commit sys.store var job current).1⟩
    rw [(Store.moved_commit sys.store var job current).backend]
    exact Store.stored_written_of_failure (Store.writeFailure?_of_error he)
  | left hstage hjob =>
    obtain ⟨e, rfl⟩ := h _ rfl
    rw [Store.conclude_error]
    exact ⟨rfl, rfl⟩

/-! ## The outcome in a run -/

omit [AtomicBackend β] in
lemma outcome_moves (ms : List (Move β)) (ht : sys.tasks[t]? = some task)
    (h : task.stage.outcome? = some reply) :
    ∃ task', (sys.moves ms).tasks[t]? = some task' ∧ task'.stage.outcome? = some reply := by
  induction ms generalizing sys task with
  | nil => exact ⟨task, ht, h⟩
  | cons m ms ih =>
    rcases sys.move_cases m with ⟨-, htasks, -⟩ | ⟨i, other, -, hi, hready, -, hmove⟩
    · exact ih (htasks ▸ ht) h
    · obtain ⟨since, htasks⟩ := exists_enter hi (sys.turn i other).1 (sys.turn i other).2
      rw [← hmove] at htasks
      by_cases hit : t = i
      · subst hit
        cases ht.symm.trans hi
        exact ih ((htasks t).trans (if_pos rfl)) ((advance_turn hready).outcome h)
      · exact ih ((htasks t).trans ((if_neg hit).trans ht)) h

omit [AtomicBackend β] in
lemma exists_turn_of_outcome (hnew : ∀ task ∈ sys.tasks, task.stage.outcome? = none)
    {ms : List (Move β)} (ht : (sys.moves ms).tasks[t]? = some task)
    (h : task.stage.outcome? = some reply) :
    ∃ ms₁ ms₂ task₁, ms = ms₁ ++ .turn t :: ms₂ ∧ (sys.moves ms₁).tasks[t]? = some task₁ ∧
      (sys.moves ms₁).isReady t task₁ = true ∧ task₁.stage.outcome? = none ∧
      ((sys.moves ms₁).turn t task₁).1.outcome? = some reply := by
  induction ms using List.reverseRecOn generalizing task with
  | nil =>
    rw [hnew task (List.mem_of_getElem? ht)] at h
    cases h
  | append_singleton ms m ih =>
    rw [moves_concat] at ht
    -- unless the last move found it, it was known before
    have hearlier : ∀ task', (sys.moves ms).tasks[t]? = some task' →
        task'.stage.outcome? = some reply → ∃ ms₁ ms₂ task₁,
          ms ++ [m] = ms₁ ++ .turn t :: ms₂ ∧ (sys.moves ms₁).tasks[t]? = some task₁ ∧
          (sys.moves ms₁).isReady t task₁ = true ∧ task₁.stage.outcome? = none ∧
          ((sys.moves ms₁).turn t task₁).1.outcome? = some reply := by
      intro task' ht' h'
      obtain ⟨ms₁, ms₂, task₁, rfl, hrest⟩ := ih ht' h'
      exact ⟨ms₁, ms₂ ++ [m], task₁, by simp, hrest⟩
    rcases (sys.moves ms).move_cases m with ⟨-, htasks, -⟩ | ⟨i, other, rfl, hi, hready, -, hmove⟩
    · exact hearlier task (htasks ▸ ht) h
    · obtain ⟨since, htasks⟩ := exists_enter hi ((sys.moves ms).turn i other).1
        ((sys.moves ms).turn i other).2
      rw [hmove, htasks] at ht
      by_cases hit : t = i
      · subst hit
        rw [if_pos rfl] at ht
        cases ht
        cases hknown : other.stage.outcome? with
        | none => exact ⟨ms, [], other, rfl, hi, hready, hknown, h⟩
        | some reply' =>
          have hsame := (advance_turn hready).outcome hknown
          rw [h] at hsame
          cases hsame
          exact hearlier other hi hknown
      · rw [if_neg hit] at ht
        exact hearlier task ht h

/-! ## Letting the lock go -/

omit [AtomicBackend β] in
lemma Fresh.lined_moves (h : sys.Fresh) (ms : List (Move β)) : (sys.moves ms).Lined := by
  induction ms using List.reverseRecOn with
  | nil => exact h.lined
  | append_singleton ms m ih =>
    rw [moves_concat]
    exact Lined.move ih m

omit [Backend β] [AtomicBackend β] in
lemma Lined.unused (hl : sys.Lined) (h : ∀ task ∈ sys.tasks, task.call.job?.isSome = true →
    task.stage.inLine = false) : sys.store.locks.Unused := by
  apply hl.sound.unused
  intro var
  apply List.eq_nil_iff_forall_not_mem.2
  intro t hmem
  obtain ⟨task, job, ht, hjob, hline⟩ := (hl.line_iff var t).1 hmem
  rw [h task (List.mem_of_getElem? ht) (by rw [hjob]; rfl)] at hline
  cases hline

omit [AtomicBackend β] in
lemma clock_step (sys : System β) (t : Ticket) :
    (sys.step t).now = sys.now ∧ (sys.step t).delay = sys.delay := by
  rcases sys.step_cases t with ⟨hsame, -⟩ | ⟨task, -, -, hstep⟩
  · rw [hsame]
    exact ⟨rfl, rfl⟩
  · rw [hstep]
    exact ⟨rfl, rfl⟩

omit [AtomicBackend β] in
lemma exists_step (ht : sys.tasks[t]? = some task) (hready : sys.isReady t task = true) :
    (sys.step t).store = (sys.turn t task).2 ∧ ∃ since, ∀ i, (sys.step t).tasks[i]? =
      if i = t then some { task with stage := (sys.turn t task).1, since } else sys.tasks[i]? := by
  have hstep : sys.step t = sys.moveTask t task := by
    unfold step
    rw [ht]
    exact if_pos hready
  rw [hstep]
  exact ⟨rfl, exists_enter ht _ _⟩

omit [AtomicBackend β] in
/-- Where no other locked call of its variable is under way, a locked call that starts is granted
its lock at once, however short a time it would wait. -/
lemma Lined.granted_at_once (hl : sys.Lined) (ht : sys.tasks[t]? = some task)
    (hjob : task.call.job? = some (var, job)) (hstage : task.stage = .waiting)
    (hstart : task.start ≤ sys.now)
    (hfree : ∀ other ∈ sys.tasks, (∃ job, other.call.job? = some (var, job)) →
      other.stage.inLine = false) :
    ∃ task', (sys.moves [.turn t, .turn t]).tasks[t]? = some task' ∧
      task'.stage = .reading (sys.now + sys.delay) := by
  have hready : sys.isReady t task = true := by
    simpa [isReady, readyAt?, hstage] using hstart
  have hturn : sys.turn t task = (.queued sys.now, sys.store.request var t) := by
    simp only [turn, hstage, begin, hjob]
  obtain ⟨-, since, htasks⟩ := exists_step ht hready
  have hl' : (sys.step t).Lined := hl.move (.turn t)
  have ht' := (htasks t).trans (if_pos rfl)
  rw [hturn] at ht' htasks
  -- it is alone in its line
  have hmem : t ∈ (sys.step t).store.locks.users var := hl'.mem_users ht' hjob rfl
  have hsole : ∀ i ∈ (sys.step t).store.locks.users var, i = t := by
    intro i hi
    obtain ⟨other, job', hother, hjob', hline⟩ := (hl'.line_iff var i).1 hi
    rw [htasks] at hother
    split at hother
    · assumption
    · rw [hfree other (List.mem_of_getElem? hother) ⟨job', hjob'⟩] at hline
      cases hline
  have hhead : ((sys.step t).store.locks.users var).head? = some t := by
    cases hline : (sys.step t).store.locks.users var with
    | nil =>
      rw [hline] at hmem
      cases hmem
    | cons i rest => rw [List.head?_cons, hsole i (hline ▸ List.mem_cons_self)]
  have hholds := (hl'.sound.holds_iff hmem).2 hhead
  have hready' : (sys.step t).isReady t { task with stage := .queued sys.now, since } = true := by
    simp [isReady, readyAt?, hholds]
  obtain ⟨-, since', htasks'⟩ := exists_step ht' hready'
  refine ⟨_, (htasks' t).trans (if_pos rfl), ?_⟩
  obtain ⟨hnow, hdelay⟩ := clock_step sys t
  simp only [turn, hjob, leaveQueue, if_pos hholds, hnow, hdelay]

/-! ## Failing atomically -/

/-- What a run comes to for the tasks that fail in it. -/
structure FailsAtomically (sys : System β) (ms : List (Move β)) : Prop where
  /-- A failure that the backend answers in a turn is what the task answers, and nobody is told of a
  text that could not be decoded. -/
  returned : ∀ ms₁ t ms₂ task e, ms = ms₁ ++ .turn t :: ms₂ →
    (sys.moves ms₁).tasks[t]? = some task → (sys.moves ms₁).isReady t task = true →
    (sys.moves ms₁).failure? task = some e →
    ((sys.moves ms₁).step t).store.journal.decodeFailures =
        (sys.moves ms₁).store.journal.decodeFailures ∧
      ∃ task', (sys.moves ms).tasks[t]? = some task' ∧ task'.stage.outcome? = some (.error e)
  /-- A task that has failed did so in one of its turns, by what the backend answered in that turn
  or by itself. -/
  caused : ∀ t task e, (sys.moves ms).tasks[t]? = some task →
    task.stage.outcome? = some (.error e) → ∃ ms₁ ms₂ task₁, ms = ms₁ ++ .turn t :: ms₂ ∧
      (sys.moves ms₁).tasks[t]? = some task₁ ∧ (sys.moves ms₁).isReady t task₁ = true ∧
      ((sys.moves ms₁).failure? task₁ = some e ∨ (sys.moves ms₁).FailsByItself t task₁ e)
  /-- In none of its turns did it change a text or count an increment. -/
  untouched : ∀ t task e, (sys.moves ms).tasks[t]? = some task →
    task.stage.outcome? = some (.error e) → ∀ ms₁ ms₂, ms = ms₁ ++ .turn t :: ms₂ →
      Backend.stored ((sys.moves ms₁).step t).store.backend =
          Backend.stored (sys.moves ms₁).store.backend ∧
        ((sys.moves ms₁).step t).store.journal.counters.increments =
          (sys.moves ms₁).store.journal.counters.increments
  /-- A task that has its answer has let its lock go. -/
  released : ∀ t task, (sys.moves ms).tasks[t]? = some task → task.stage.isAnswered = true →
    (sys.moves ms).store.locks.holds t = false
  /-- While no locked call is under way no variable has an entry. -/
  cleared : (∀ task ∈ (sys.moves ms).tasks, task.call.job?.isSome = true →
      task.stage.inLine = false) →
    (sys.moves ms).store.locks.isEmpty = true
  /-- While no locked call of a variable is under way, the next one that starts is granted its lock
  at once, however short a time it would wait. -/
  next : ∀ t task var job, (sys.moves ms).tasks[t]? = some task →
    task.call.job? = some (var, job) → task.stage = .waiting → task.start ≤ (sys.moves ms).now →
    (∀ other ∈ (sys.moves ms).tasks, (∃ job, other.call.job? = some (var, job)) →
      other.stage.inLine = false) →
    ∃ task', ((sys.moves ms).moves [.turn t, .turn t]).tasks[t]? = some task' ∧
      task'.stage = .reading ((sys.moves ms).now + (sys.moves ms).delay)

theorem Fresh.failsAtomically (hfresh : sys.Fresh) (ms : List (Move β)) :
    sys.FailsAtomically ms where
  returned ms₁ t ms₂ task e heq ht hready hfailure := by
    obtain ⟨hstore, since, htasks⟩ := exists_step ht hready
    obtain ⟨houtcome, hjournal⟩ := (advance_turn hready).returned hfailure
    refine ⟨by rw [hstore, hjournal], ?_⟩
    rw [heq, moves_append]
    exact outcome_moves ms₂ ((htasks t).trans (if_pos rfl)) houtcome
  caused t task e ht houtcome := by
    have hnew : ∀ task ∈ sys.tasks, task.stage.outcome? = none := by
      intro task hmem
      rw [hfresh.tasks task hmem]
      rfl
    obtain ⟨ms₁, ms₂, task₁, heq, ht₁, hready, hopen, hfound⟩ :=
      exists_turn_of_outcome hnew ht houtcome
    exact ⟨ms₁, ms₂, task₁, heq, ht₁, hready, (advance_turn hready).cause hready hopen hfound⟩
  untouched t task e ht houtcome ms₁ ms₂ heq := by
    rcases (sys.moves ms₁).step_cases t with ⟨hsame, -⟩ | ⟨task₁, ht₁, hready, -⟩
    · rw [hsame]
      exact ⟨rfl, rfl⟩
    · obtain ⟨hstore, since, htasks⟩ := exists_step ht₁ hready
      rw [hstore]
      apply (advance_turn hready).untouched
      intro reply hreply
      -- the outcome of this turn is the one that the task still has
      obtain ⟨task', ht', h'⟩ := outcome_moves ms₂ ((htasks t).trans (if_pos rfl)) hreply
      rw [heq, moves_append] at ht
      cases ht.symm.trans ht'
      rw [houtcome] at h'
      exact ⟨e, (Option.some.inj h').symm⟩
  released t task ht hanswered := by
    have hl := hfresh.lined_moves ms
    apply hl.sound.not_holds
    exact hl.not_mem_users ht (Stage.not_inLine_of_isAnswered hanswered)
  cleared h := ((hfresh.lined_moves ms).unused h).released.1
  next t task var job := (hfresh.lined_moves ms).granted_at_once

end System

/-! ## Calls one after another, and at the same time -/

/-- The states that a store gets to by calls, one after another, and by what happens to its backend
in between. -/
inductive Store.Reaches {β : Type} [Backend β] (s : Store β) : Store β → Prop where
  | refl : Reaches s s
  | call {s' : Store β} (h : Reaches s s') (c : Call) : Reaches s (s'.call c).2
  | outside {s' : Store β} (h : Reaches s s') (change : β → β) :
    Reaches s { s' with backend := change s'.backend }

lemma Store.Reaches.unused {β : Type} [Backend β] {s s' : Store β} (h : s.Reaches s')
    (hs : s.locks.Unused) : s'.locks.Unused := by
  induction h with
  | refl => exact hs
  | call h c ih => exact unused_call ih c
  | outside h change ih => exact ih

/-- Whatever the backend fails and with what: a call that fails changes nothing but what it tells of
its failure, when it is made on its own in any state of the store, and likewise when others are made
at the same time. -/
theorem Store.failures_atomic {β : Type} [Backend β] [AtomicBackend β] :
    (∀ s s' : Store β, s.locks.Unused → s.Reaches s' → ∀ c, s'.FailsAtomically c) ∧
      ∀ sys : System β, sys.Fresh → ∀ ms, sys.FailsAtomically ms :=
  ⟨fun _ _ hs h c => Store.failsAtomically (h.unused hs) c, fun _ hfresh ms =>
    hfresh.failsAtomically ms⟩

/-- A store whose backend refuses to read, with the failure that elsewhere means an undecodable
text. -/
def misread : Store Host where
  backend := { map := .set .empty ⟨.global, "n"⟩ "n:4", fault := some ⟨.get, .undecodable "?"⟩ }
  limit := some 0

/-- Two increments of a variable that cannot be read, at the same time. -/
def misreadTwice : System Host where
  store := misread
  tasks := [{ call := .increment ⟨.global, "n"⟩ (.int64 1) },
    { call := .increment ⟨.global, "n"⟩ (.int64 2) }]

theorem Store.misread_atomic : misread.locks.Unused ∧ misread.Reaches misread ∧
    (misread.call (.increment ⟨.global, "n"⟩ (.int64 1))).1 = .error (.undecodable "?") ∧
    misread.FailsAtomically (.increment ⟨.global, "n"⟩ (.int64 1)) ∧
    misreadTwice.Fresh ∧
    ((misreadTwice.moves [.turn 0, .turn 1, .turn 0, .turn 0, .turn 0, .turn 1, .turn 1]).tasks.map
      (·.stage.outcome?)) = [some (.error (.undecodable "?")), some (.error (.undecodable "?"))] ∧
    misreadTwice.FailsAtomically
      [.turn 0, .turn 1, .turn 0, .turn 0, .turn 0, .turn 1, .turn 1] := by
  have hfresh : misreadTwice.Fresh := ⟨⟨rfl, rfl⟩, by simp [misreadTwice]⟩
  exact ⟨⟨rfl, rfl⟩, .refl, rfl, Store.failures_atomic.1 misread misread ⟨rfl, rfl⟩ .refl _, hfresh,
    rfl, Store.failures_atomic.2 misreadTwice hfresh _⟩

end TypedVars
