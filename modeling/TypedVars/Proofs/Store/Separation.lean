import TypedVars.Proofs.Backend.Separate
import TypedVars.Proofs.Kept
import TypedVars.Proofs.Store.Outcome

/-!
# Tasks of one variable

A system is *mirrored* by another one for a variable (`System.Mirrors`) when the other one has the
tasks on this variable and no others, each as far as it has come, over a backend that is alike for
the variable, with the same line at the lock of the variable.  Every turn of a task on the variable
is a turn of the same task in the mirror, with the same outcome (`Mirrors.turn`); the turns of other
tasks are not seen there (`Mirrors.pass`).

So in every interleaving the tasks on a variable come to the same as in the interleaving from which
the other tasks and their turns have been deleted (`Mirrors.moves`).
-/

namespace TypedVars

/-! ## Calls over backends that are alike -/

lemma map_injective {ε α γ : Type} {f : α → γ} (hf : Function.Injective f) {x y : Except ε α}
    (h : x.map f = y.map f) : x = y := by
  cases x <;> cases y <;> simp_all [Except.map, hf.eq_iff]

@[simp] lemma BackendCall.var?_ofWrite (var : VarId) (v : Option Value) :
    (BackendCall.ofWrite var v).var? = some var := by
  cases v <;> rfl

lemma Call.var?_of_demand {c : Call} {bc : BackendCall} (h : c.demand = .ok bc) :
    bc.var? = c.var? := by
  unfold demand at h
  split at h
  · cases h
  · cases c with
    | setJson var j =>
      dsimp only at h
      cases hj : Value.ofJsonOrNull j with
      | error e =>
        rw [hj] at h
        cases h
      | ok v =>
        rw [hj] at h
        cases h
        exact BackendCall.var?_ofWrite var v
    | set var v =>
      cases h
      exact BackendCall.var?_ofWrite var v
    | get var | isSet var | increment var amount | update var f | unset var | dump scope lead
    | dumpJson scope lead =>
      cases h
      rfl

namespace Store

variable {β : Type} [Backend β] {s s' : Store β} {var : VarId} {c : Call}

lemma fetch_of_alike (h : Backend.Alike var s.backend s'.backend) :
    (s'.fetch var).1 = (s.fetch var).1 ∧
      Backend.Alike var (s.fetch var).2.backend (s'.fetch var).2.backend := by
  have htext : Function.Injective BackendAnswer.text := fun _ _ => BackendAnswer.text.inj
  have hanswer := h.answer (c := .get var) rfl
  refine ⟨fetch_congr (map_injective htext hanswer.symm), ?_⟩
  rw [(moved_fetch s var).backend, (moved_fetch s' var).backend]
  exact h.call (c := .get var) rfl

lemma commit_of_alike (h : Backend.Alike var s.backend s'.backend) (job : Job)
    (current : Option Value) :
    (s'.commit var job current).1 = (s.commit var job current).1 ∧
      Backend.Alike var (s.commit var job current).2.backend
        (s'.commit var job current).2.backend := by
  have hdone : Function.Injective fun _ : Unit => BackendAnswer.done :=
    Function.injective_of_subsingleton _
  have hwrite : ∀ v, (s'.write var v).1 = (s.write var v).1 := by
    intro v
    have hanswer := h.answer (BackendCall.var?_ofWrite var v)
    cases v <;> exact map_injective hdone hanswer.symm
  rw [(commit_eq s var job current).1, (commit_eq s' var job current).1, hwrite,
    (moved_commit s var job current).backend, (moved_commit s' var job current).backend,
    written_eq_call, written_eq_call]
  exact ⟨rfl, h.call (BackendCall.var?_ofWrite var _)⟩

lemma call_of_alike (h : Backend.Alike var s.backend s'.backend) (hjob : c.job? = none)
    (hvar : c.var? = some var) :
    (s'.call c).1 = (s.call c).1 ∧
      Backend.Alike var (s.call c).2.backend (s'.call c).2.backend := by
  cases hdemand : c.demand with
  | error e =>
    rw [call_of_refused hdemand, call_of_refused hdemand]
    exact ⟨rfl, h⟩
  | ok bc =>
    have hbc := (Call.var?_of_demand hdemand).trans hvar
    have hanswer := h.answer hbc
    rw [call_eq_heard hjob hdemand, call_eq_heard hjob hdemand, backend_heard, backend_heard]
    refine ⟨?_, h.call hbc⟩
    cases hx : (Backend.call s.backend bc).1 with
    | error e => rw [heard_of_error hx, heard_of_error (hanswer ▸ hx)]
    | ok answer => rw [heard_of_ok hx, heard_of_ok (hanswer ▸ hx)]

end Store

/-- Whether a call addresses a variable. -/
def Call.isOn (c : Call) (var : VarId) : Bool := c.var? = some var

lemma Call.isOn_iff {c : Call} {var : VarId} : c.isOn var = true ↔ c.var? = some var :=
  decide_eq_true_iff

/-- A job is done on the variable that its call addresses. -/
lemma Call.eq_of_isOn {c : Call} {var v : VarId} {job : Job} (hon : c.isOn var = true)
    (hjob : c.job? = some (v, job)) : v = var :=
  Option.some.inj ((var?_of_job? hjob).symm.trans (isOn_iff.1 hon))

/-- A line when one who was at a stage comes to another one. -/
def Stage.line (before after : Stage) (t : Ticket) (line : List Ticket) : List Ticket :=
  if after.inLine then if before.inLine then line else line ++ [t] else line.filter (· ≠ t)

lemma Stage.map_line {f : Ticket → Ticket} {t : Ticket} {line : List Ticket}
    (hf : ∀ j ∈ line, f j = f t → j = t) (before after : Stage) :
    (before.line after t line).map f = before.line after (f t) (line.map f) := by
  unfold Stage.line
  split
  · split
    · rfl
    · rw [List.map_append, List.map_singleton]
  · rw [List.filter_map]
    congr 1
    refine List.filter_congr fun j hj => ?_
    have hiff : j = t ↔ f j = f t := ⟨congrArg f, hf j hj⟩
    simp [hiff]

namespace System

variable {β : Type} {sys sole : System β} {t i : Ticket} {task other : Task} {stage : Stage}
  {store : Store β} {var v : VarId}

/-! ## The kinds of turns, once more -/

section

variable [Backend β]

lemma turn_of_advance (hadv : Advance sys t task stage store) :
    sys.turn t task = (stage, store) := by
  cases hadv with
  | ask hstage hjob => simp only [turn, hstage, begin, hjob]
  | look hstage hjob hread => simp [turn, hstage, begin, hjob, hread]
  | rush hstage hjob hread => simp [turn, hstage, begin, hjob, hread]
  | granted hstage hjob hholds => simp [turn, hstage, hjob, leaveQueue, hholds]
  | refused hstage hjob hholds hlimit =>
    simp [turn, hstage, hjob, leaveQueue, hholds, hlimit, Store.refusal]
  | @found var job due current hstage hjob hfetch =>
    simp only [turn, hstage, finishRead, hjob]
    rcases hf : sys.store.fetch var with ⟨_, store⟩
    rw [hf] at hfetch
    cases hfetch
    rfl
  | @failed var job due e hstage hjob hfetch =>
    simp only [turn, hstage, finishRead, hjob]
    rcases hf : sys.store.fetch var with ⟨_, store⟩
    rw [hf] at hfetch
    cases hfetch
    rfl
  | told hstage hjob => simp only [turn, hstage, finishRead, hjob]
  | wrote hstage hjob => simp only [turn, hstage, hjob]
  | left hstage hjob => simp only [turn, hstage, hjob]
  | idle hjob hlocked =>
    cases hstage : task.stage with
    | queued since | deciding current | leaving reply => simp only [turn, hstage, hjob]
    | waiting | reading due | answered time reply =>
      rw [hstage] at hlocked
      cases hlocked

lemma var?_of_ask? {bc : BackendCall} (h : task.ask? = some bc) : bc.var? = task.call.var? := by
  have hdemand : task.call.demand.toOption = some bc → bc.var? = task.call.var? := by
    intro hsome
    cases hok : task.call.demand with
    | error e =>
      rw [hok] at hsome
      cases hsome
    | ok bc' =>
      rw [hok] at hsome
      cases hsome
      exact Call.var?_of_demand hok
  unfold Task.ask? at h
  split at h
  · split at h
    · cases h
    · exact hdemand h
  · exact hdemand h
  · next hjob =>
    cases h
    rw [BackendCall.var?_ofWrite, Call.var?_of_job? hjob]
  · cases h

/-- A turn makes no call to the backend, or one on what the task addresses. -/
lemma Advance.backend_cases (hadv : Advance sys t task stage store) :
    store.backend = sys.store.backend ∨ ∃ bc : BackendCall, bc.var? = task.call.var? ∧
      store.backend = (Backend.call sys.store.backend bc).2 := by
  rw [hadv.backend_asked]
  cases hask : task.ask? with
  | none => exact .inl rfl
  | some bc => exact .inr ⟨bc, var?_of_ask? hask, rfl⟩

lemma Lined.users_advance (h : sys.Lined) (ht : sys.tasks[t]? = some task)
    (hadv : Advance sys t task stage store) (v : VarId) : store.locks.users v =
      if task.call.job?.map Prod.fst = some v then
        task.stage.line stage t (sys.store.locks.users v) else sys.store.locks.users v := by
  -- a task stays in its line, or it comes to it or leaves it
  have hstay : store.locks = sys.store.locks → task.stage.inLine = true → stage.inLine = true →
      store.locks.users v = if task.call.job?.map Prod.fst = some v then
        task.stage.line stage t (sys.store.locks.users v) else sys.store.locks.users v := by
    intro hlocks hbefore hafter
    rw [hlocks, Stage.line, if_pos hafter, if_pos hbefore, ite_self]
  have hmove : ∀ {var : VarId} {job : Job}, task.call.job? = some (var, job) →
      (∀ v, store.locks.users v = if v = var then
        task.stage.line stage t (sys.store.locks.users var) else sys.store.locks.users v) →
      store.locks.users v = if task.call.job?.map Prod.fst = some v then
        task.stage.line stage t (sys.store.locks.users v) else sys.store.locks.users v := by
    intro var job hjob husers
    rw [husers, hjob]
    by_cases hv : v = var
    · simp [hv]
    · simp [hv, Ne.symm hv]
  cases hadv with
  | @ask var job hstage hjob =>
    have hout : task.stage.inLine = false := by rw [hstage]; rfl
    refine hmove hjob fun v => ?_
    rw [Stage.line, hout]
    exact (h.sound.request (h.not_mem_users ht hout) var).2 v
  | look _ hjob | idle hjob =>
    rw [hjob]
    rfl
  | rush _ hjob | told _ hjob =>
    rw [(Store.sameLocks_call _ hjob).1, hjob]
    rfl
  | granted hstage => exact hstay rfl (by rw [hstage]; rfl) rfl
  | found hstage => exact hstay (Store.moved_fetch _ _).locks (by rw [hstage]; rfl) rfl
  | failed hstage => exact hstay (Store.moved_fetch _ _).locks (by rw [hstage]; rfl) rfl
  | wrote hstage => exact hstay (Store.moved_commit _ _ _ _).locks (by rw [hstage]; rfl) rfl
  | @refused var job since limit hstage hjob hholds hlimit =>
    have hmem := h.mem_users ht hjob (by rw [hstage]; rfl)
    have hnot : (sys.store.locks.users var).head? ≠ some t := by
      intro hhead
      rw [(h.sound.holds_iff hmem).2 hhead] at hholds
      cases hholds
    exact hmove hjob (h.sound.abandon hmem hnot).2
  | @left var job reply hstage hjob =>
    have hhead := h.head t task var job ht hjob (by rw [hstage]; rfl)
    refine hmove hjob fun v => ?_
    rw [(Store.moved_conclude (sys.store.release var t) var job reply).locks]
    exact (h.sound.release hhead).2 v

end

/-! ## The tasks on a variable -/

/-- The system without the tasks that do not address a variable. -/
def only (sys : System β) (var : VarId) : System β :=
  { sys with tasks := sys.tasks.filter (·.call.isOn var) }

/-- The calls of the tasks. -/
def calls (sys : System β) : List Call := sys.tasks.map (·.call)

/-- The new ticket of a task when those that do not address a variable are deleted. -/
def retell (sys : System β) (var : VarId) (t : Ticket) : Ticket :=
  sys.calls.countPBefore (·.isOn var) t

lemma retell_eq (sys : System β) (var : VarId) (t : Ticket) :
    sys.retell var t = sys.tasks.countPBefore (·.call.isOn var) t := countPBefore_map _ _ _ _

lemma retell_inj {task' : Task} {t' : Ticket} (ht : sys.tasks[t]? = some task)
    (hon : task.call.isOn var = true) (ht' : sys.tasks[t']? = some task')
    (hon' : task'.call.isOn var = true) (h : sys.retell var t = sys.retell var t') : t = t' := by
  rw [retell_eq, retell_eq] at h
  exact kept_inj ht hon ht' hon' h

lemma calls_enter (ht : sys.tasks[t]? = some task) (stage : Stage) (store : Store β) :
    (sys.enter t task stage store).calls = sys.calls := by
  obtain ⟨since, htasks⟩ := exists_enter ht stage store
  apply List.ext_getElem?
  intro i
  rw [calls, calls, List.getElem?_map, List.getElem?_map, htasks]
  split
  · next hi =>
    rw [hi, ht]
    rfl
  · rfl

/-- New tickets are for good. -/
lemma retell_enter (ht : sys.tasks[t]? = some task) (var : VarId) (stage : Stage)
    (store : Store β) : (sys.enter t task stage store).retell var = sys.retell var := by
  funext i
  rw [retell, calls_enter ht, retell]

/-- A task that addresses a variable is in no line but that of the variable. -/
lemma Lined.eq_of_mem_users (h : sys.Lined) (ht : sys.tasks[t]? = some task)
    (hon : task.call.isOn var = true) (hmem : t ∈ sys.store.locks.users v) : v = var := by
  obtain ⟨task', job, ht', hjob, -⟩ := (h.line_iff v t).1 hmem
  rw [ht] at ht'
  cases ht'
  exact Call.eq_of_isOn hon hjob

lemma Lined.retell_inj (h : sys.Lined) (ht : sys.tasks[t]? = some task)
    (hon : task.call.isOn var = true) {j : Ticket} (hmem : j ∈ sys.store.locks.users var)
    (hsame : sys.retell var j = sys.retell var t) : j = t := by
  obtain ⟨task', job, hj, hjob, -⟩ := (h.line_iff var j).1 hmem
  exact System.retell_inj hj (Call.isOn_iff.2 (Call.var?_of_job? hjob)) ht hon hsame

/-- Where the line of a variable is the same but for the tickets, a task holds its lock in both
systems or in neither. -/
lemma Lined.holds_retell (h : sys.Lined) (h' : sole.Lined)
    (hline : sole.store.locks.users var = (sys.store.locks.users var).map (sys.retell var))
    {t' : Ticket} (htell : sys.retell var t = t') (ht : sys.tasks[t]? = some task)
    (ht' : sole.tasks[t']? = some other) (hon : task.call.isOn var = true)
    (hcall : other.call = task.call) :
    sole.store.locks.holds t' = sys.store.locks.holds t := by
  subst htell
  by_cases hmem : t ∈ sys.store.locks.users var
  · have hmem' : sys.retell var t ∈ sole.store.locks.users var := by
      rw [hline]
      exact List.mem_map_of_mem hmem
    apply Bool.eq_iff_iff.2
    rw [h.sound.holds_iff hmem, h'.sound.holds_iff hmem', hline, List.head?_map]
    constructor
    · intro hhead
      obtain ⟨j, hj, hsame⟩ := Option.map_eq_some_iff.1 hhead
      rw [hj, h.retell_inj ht hon (List.mem_of_mem_head? hj) hsame]
    · intro hhead
      rw [hhead]
      rfl
  · rw [h.sound.not_holds, h'.sound.not_holds]
    · intro v hv
      rw [h'.eq_of_mem_users ht' (hcall ▸ hon) hv, hline] at hv
      obtain ⟨j, hj, hsame⟩ := List.mem_map.1 hv
      exact hmem (h.retell_inj ht hon hj hsame ▸ hj)
    · intro v hv
      exact hmem (h.eq_of_mem_users ht hon hv ▸ hv)

/-! ## Mirrors -/

/-- A system that has the tasks on a variable, and nothing of the others. -/
structure Mirrors [Backend β] (var : VarId) (sys sole : System β) : Prop where
  lined : sys.Lined
  soleLined : sole.Lined
  tasks : sole.tasks = sys.tasks.filter (·.call.isOn var)
  delay : sole.delay = sys.delay
  limit : sole.store.limit = sys.store.limit
  backend : Backend.Alike var sys.store.backend sole.store.backend
  line : sole.store.locks.users var = (sys.store.locks.users var).map (sys.retell var)

variable [Backend β]

lemma Fresh.mirrors (h : sys.Fresh) (var : VarId) : sys.Mirrors var (sys.only var) where
  lined := h.lined
  soleLined := Fresh.lined ⟨h.locks, fun task hmem => h.tasks task (List.mem_of_mem_filter hmem)⟩
  tasks := rfl
  delay := rfl
  limit := rfl
  backend := Backend.alike_refl var _
  line := by
    rw [h.locks.users_eq_nil]
    exact h.locks.users_eq_nil var

namespace Mirrors

lemma clock (h : sys.Mirrors var sole) (now now' : Nat) :
    Mirrors var { sys with now } { sole with now := now' } :=
  ⟨h.lined.clock now, h.soleLined.clock now', h.tasks, h.delay, h.limit, h.backend, h.line⟩

lemma retold (h : sys.Mirrors var sole) (ht : sys.tasks[t]? = some task)
    (hon : task.call.isOn var = true) : sole.tasks[sys.retell var t]? = some task := by
  rw [h.tasks, retell_eq]
  exact getElem?_kept ht hon

lemma holds (h : sys.Mirrors var sole) (ht : sys.tasks[t]? = some task)
    (hon : task.call.isOn var = true) :
    sole.store.locks.holds (sys.retell var t) = sys.store.locks.holds t :=
  h.lined.holds_retell h.soleLined h.line rfl ht (h.retold ht hon) hon rfl

end Mirrors

omit [Backend β] in
/-- When a task can move depends on the clock, on the time limit and on whether it holds its
lock. -/
lemma readyAt?_congr {t' : Ticket} (hnow : sole.now = sys.now)
    (hlimit : sole.store.limit = sys.store.limit)
    (hholds : sole.store.locks.holds t' = sys.store.locks.holds t) (task : Task) :
    sole.readyAt? t' task = sys.readyAt? t task := by
  unfold readyAt? limitOf
  rw [hnow, hlimit, hholds]

namespace Mirrors

variable (h : sys.Mirrors var sole)

include h

lemma isReady (hnow : sole.now = sys.now) (ht : sys.tasks[t]? = some task)
    (hon : task.call.isOn var = true) :
    sole.isReady (sys.retell var t) task = sys.isReady t task := by
  rw [System.isReady, System.isReady, readyAt?_congr hnow h.limit (h.holds ht hon), hnow]

/-- The turn of a task on the variable is one in the mirror as well. -/
lemma advance (hnow : sole.now = sys.now) (ht : sys.tasks[t]? = some task)
    (hon : task.call.isOn var = true) (hadv : Advance sys t task stage store) :
    ∃ store', Advance sole (sys.retell var t) task stage store' ∧
      Backend.Alike var store.backend store'.backend := by
  have hholds := h.holds ht hon
  have hlimit : sole.limitOf task = sys.limitOf task := by rw [limitOf, limitOf, h.limit]
  cases hadv with
  | ask hstage hjob =>
    rw [← hnow]
    exact ⟨_, .ask hstage hjob, h.backend⟩
  | look hstage hjob hread =>
    rw [← hnow, ← h.delay]
    exact ⟨_, .look hstage hjob hread, h.backend⟩
  | rush hstage hjob hread =>
    obtain ⟨hreply, halike⟩ := Store.call_of_alike h.backend hjob (Call.isOn_iff.1 hon)
    rw [← hnow, ← hreply]
    exact ⟨_, .rush hstage hjob hread, halike⟩
  | granted hstage hjob hheld =>
    rw [← hnow, ← h.delay]
    exact ⟨_, .granted hstage hjob (hholds.trans hheld), h.backend⟩
  | refused hstage hjob hfree hsome =>
    rw [← hnow]
    exact ⟨_, .refused hstage hjob (hholds.trans hfree) (hlimit.trans hsome), h.backend⟩
  | found hstage hjob hfetch =>
    cases Call.eq_of_isOn hon hjob
    obtain ⟨hread, halike⟩ := Store.fetch_of_alike h.backend
    exact ⟨_, .found hstage hjob (hread.trans hfetch), halike⟩
  | failed hstage hjob hfetch =>
    cases Call.eq_of_isOn hon hjob
    obtain ⟨hread, halike⟩ := Store.fetch_of_alike h.backend
    exact ⟨_, .failed hstage hjob (hread.trans hfetch), halike⟩
  | told hstage hjob =>
    obtain ⟨hreply, halike⟩ := Store.call_of_alike h.backend hjob (Call.isOn_iff.1 hon)
    rw [← hnow, ← hreply]
    exact ⟨_, .told hstage hjob, halike⟩
  | @wrote v job current hstage hjob =>
    cases Call.eq_of_isOn hon hjob
    obtain ⟨hreply, halike⟩ := Store.commit_of_alike h.backend job current
    rw [← hreply]
    exact ⟨_, .wrote hstage hjob, halike⟩
  | @left v job reply hstage hjob =>
    rw [← hnow]
    refine ⟨_, .left hstage hjob, ?_⟩
    rw [(Store.moved_conclude (sys.store.release v t) v job reply).backend,
      (Store.moved_conclude (sole.store.release v (sys.retell var t)) v job reply).backend]
    exact h.backend
  | idle hjob hlocked => exact ⟨_, .idle hjob hlocked, h.backend⟩

/-- When a task on the variable takes its turn here and in the mirror, it comes to the same, and
the mirror is one again. -/
lemma enter (hnow : sole.now = sys.now) (ht : sys.tasks[t]? = some task)
    (hon : task.call.isOn var = true) (hadv : Advance sys t task stage store) {store' : Store β}
    (hadv' : Advance sole (sys.retell var t) task stage store')
    (halike : Backend.Alike var store.backend store'.backend) :
    Mirrors var (sys.enter t task stage store)
      (sole.enter (sys.retell var t) task stage store') := by
  have ht' := h.retold ht hon
  have hlined := h.lined.advance ht hadv
  have hsole := h.soleLined.advance ht' hadv'
  have hretell := retell_enter ht var stage store
  have hlimit : store'.limit = store.limit := hadv'.limit.trans (h.limit.trans hadv.limit.symm)
  have hline : store'.locks.users var = (store.locks.users var).map (sys.retell var) := by
    rw [h.lined.users_advance ht hadv, h.soleLined.users_advance ht' hadv', h.line]
    split
    · exact (Stage.map_line (fun j hj => h.lined.retell_inj ht hon hj) _ _).symm
    · rfl
  have hholds : store'.locks.holds (sys.retell var t) = store.locks.holds t := by
    obtain ⟨since, htasks⟩ := exists_enter ht stage store
    obtain ⟨since', htasks'⟩ := exists_enter ht' stage store'
    have hself := (htasks t).trans (if_pos rfl)
    have hself' := (htasks' (sys.retell var t)).trans (if_pos rfl)
    exact hlined.holds_retell hsole (by rwa [hretell]) (by rw [hretell]) hself hself' hon rfl
  have hready : ({ sole with store := store' } : System β).isReady (sys.retell var t)
      { task with stage } = ({ sys with store } : System β).isReady t { task with stage } := by
    have hwhen : ({ sole with store := store' } : System β).readyAt? (sys.retell var t)
        { task with stage } = ({ sys with store } : System β).readyAt? t { task with stage } := by
      apply readyAt?_congr
      · exact hnow
      · exact hlimit
      · exact hholds
    rw [System.isReady, System.isReady, hwhen]
    exact congrArg (fun n => Option.any (· ≤ n) _) hnow
  refine ⟨hlined, hsole, ?_, h.delay, hlimit, halike, ?_⟩
  · change sole.tasks.set _ { task with
      stage, since := if ({ sole with store := store' } : System β).isReady (sys.retell var t)
        { task with stage } then task.since else sole.now } = _
    rw [hready, hnow, h.tasks, retell_eq]
    exact (filter_set_kept ht (by exact hon) (by exact hon)).symm
  · rw [hretell]
    exact hline

/-- The turns of other tasks are not seen. -/
lemma pass [SeparateBackend β] (ht : sys.tasks[t]? = some task)
    (hoff : task.call.isOn var = false) (hadv : Advance sys t task stage store) :
    Mirrors var (sys.enter t task stage store) sole := by
  have hother : task.call.var? ≠ some var := of_decide_eq_false hoff
  refine ⟨h.lined.advance ht hadv, h.soleLined, ?_, h.delay, h.limit.trans hadv.limit.symm, ?_, ?_⟩
  · rw [h.tasks]
    exact (filter_set_left ht hoff (by exact hoff)).symm
  · refine Backend.Alike.trans (Backend.Alike.symm ?_) h.backend
    change Backend.Alike var sys.store.backend store.backend
    rcases hadv.backend_cases with hsame | ⟨bc, hbc, hcall⟩
    · rw [hsame]
      exact Backend.alike_refl var _
    · rw [hcall]
      exact SeparateBackend.alike_call (hbc ▸ hother) _
  · have hno : task.call.job?.map Prod.fst ≠ some var := by
      intro hsome
      obtain ⟨⟨v, job⟩, hjob, rfl⟩ := Option.map_eq_some_iff.1 hsome
      exact hother (Call.var?_of_job? hjob)
    rw [retell_enter ht, store_enter, h.lined.users_advance ht hadv, if_neg hno]
    exact h.line

lemma skip [SeparateBackend β] (ht : sys.tasks[t]? = some task)
    (hoff : task.call.isOn var = false) : Mirrors var (sys.step t) sole := by
  rcases sys.step_cases t with ⟨hsame, -⟩ | ⟨task', ht', hready, hstep⟩
  · rw [hsame]
    exact h
  · cases ht.symm.trans ht'
    rw [hstep]
    exact h.pass ht hoff (advance_turn hready)

/-- When a task on the variable takes its turn here, it does so in the mirror. -/
lemma turn (hnow : sole.now = sys.now) (ht : sys.tasks[t]? = some task)
    (hon : task.call.isOn var = true) :
    Mirrors var (sys.step t) (sole.step (sys.retell var t)) := by
  have ht' := h.retold ht hon
  have hready := h.isReady hnow ht hon
  unfold step
  rw [ht, ht']
  dsimp only
  rw [hready]
  split
  · next hr =>
    have hadv := advance_turn hr
    obtain ⟨store', hadv', halike⟩ := h.advance hnow ht hon hadv
    have hmove : sole.moveTask (sys.retell var t) task =
        sole.enter (sys.retell var t) task (sys.turn t task).1 store' := by
      rw [moveTask, turn_of_advance hadv']
    rw [hmove]
    exact h.enter hnow ht hon hadv hadv' halike
  · exact h

end Mirrors

/-! ## Interleavings -/

end System

/-- What is left of a move when the tasks that do not address a variable are deleted, where the
tasks make some calls: time passes all the same, and a task on the variable takes its turn under its
new ticket. -/
def Move.kept {β : Type} (var : VarId) (calls : List Call) : Move β → List (Move β)
  | .tick ms => [.tick ms]
  | .turn t =>
    if calls[t]?.any (·.isOn var) then [.turn (calls.countPBefore (·.isOn var) t)] else []
  | .outside _ => []

/-- What is left of some moves when the tasks that do not address a variable are deleted, where the
tasks make some calls. -/
def Move.only {β : Type} (var : VarId) (calls : List Call) (ms : List (Move β)) : List (Move β) :=
  ms.flatMap (Move.kept var calls)

namespace System

variable {β : Type} [Backend β] {sys sole : System β} {var : VarId}

lemma calls_move (sys : System β) (m : Move β) : (sys.move m).calls = sys.calls := by
  rcases sys.move_cases m with ⟨-, htasks, -⟩ | ⟨t, task, -, ht, -, -, hmove⟩
  · rw [calls, htasks, calls]
  · rw [hmove, calls_enter ht]

variable [SeparateBackend β]

/-- A move here is what is left of it in the mirror. -/
lemma Mirrors.move (h : sys.Mirrors var sole) (hnow : sole.now = sys.now) (m : Move β)
    (hout : ∀ change, m = .outside change → ∀ b, Backend.Alike var b (change b)) :
    Mirrors var (sys.move m) (sole.moves (m.kept var sys.calls)) ∧
      (sole.moves (m.kept var sys.calls)).now = (sys.move m).now := by
  cases m with
  | tick ms => exact ⟨h.clock _ _, congrArg (· + ms) hnow⟩
  | outside change =>
    refine ⟨⟨⟨h.lined.sound, h.lined.line_iff, h.lined.head⟩, h.soleLined, h.tasks, h.delay,
      h.limit, ?_, h.line⟩, hnow⟩
    exact (hout change rfl sys.store.backend).symm.trans h.backend
  | turn t =>
    have hcall : sys.calls[t]? = sys.tasks[t]?.map (·.call) := List.getElem?_map
    rw [Move.kept, hcall, System.move, (clock_step sys t).1]
    cases ht : sys.tasks[t]? with
    | none =>
      have hsame : sys.step t = sys := by rw [step, ht]
      rw [hsame]
      exact ⟨h, hnow⟩
    | some task =>
      rw [Option.map_some, Option.any_some]
      cases hon : task.call.isOn var with
      | true => exact ⟨h.turn hnow ht hon, (clock_step sole _).1.trans hnow⟩
      | false => exact ⟨h.skip ht hon, hnow⟩

/-- So it is for some moves. -/
lemma Mirrors.moves (h : sys.Mirrors var sole) (hnow : sole.now = sys.now) (ms : List (Move β))
    (hout : ∀ change, .outside change ∈ ms → ∀ b, Backend.Alike var b (change b)) :
    Mirrors var (sys.moves ms) (sole.moves (Move.only var sys.calls ms)) ∧
      (sole.moves (Move.only var sys.calls ms)).now = (sys.moves ms).now := by
  induction ms generalizing sys sole with
  | nil => exact ⟨h, hnow⟩
  | cons m ms ih =>
    obtain ⟨hmove, hnow'⟩ := h.move hnow m fun change hm =>
      hout change (hm ▸ List.mem_cons_self)
    have hrest := ih hmove hnow' fun change hmem => hout change (List.mem_cons_of_mem m hmem)
    rw [sys.calls_move m] at hrest
    rw [Move.only, List.flatMap_cons, moves_append]
    exact hrest

end System

end TypedVars
