import TypedVars.Proofs.Store.Ledger

/-!
# Locked calls are made one after another

Calls at the same time take turns in any order.  For each variable that nobody writes in another way
the outcome is that of its locked calls made one after another, in the order in which their locks
were granted: what their functions were given, what they answered, and the text that is left.  A
call that is not granted its lock in time has no part in it, and a read at the same time answers
what it would answer between two of these calls (`System.Linearized`).

All this is read off the ledger of the variable.  What is added here is about the reads
(`System.Observed`): the text in the backend is at any time one that the calls in order leave.
-/

namespace TypedVars

namespace Store

variable {s : Store Host} {var : VarId} {job : Job} {e : StoreError}

/-- A locked call that fails changes nothing. -/
lemma stored_serve_of_error (hkey : var.key ≠ "") (h : s.locks.Unused) {fault : Option Fault}
    (hfail : (s.serve var job fault).1.2 = .error e) :
    Backend.stored (s.serve var job fault).2.backend = Backend.stored s.backend := by
  have halone := locked_alone (s := s.facing fault) hkey h job
  cases hread : (s.facing fault).readFailure? var with
  | some e' =>
    have hbackend := (halone.failed e' hread).2
    rw [serve, hbackend, stored_host_get, stored_facing]
  | none =>
    obtain ⟨hreply, hbackend⟩ := halone.found _ (fetch_of_success hread)
    have hsame := (moved_fetch (s.facing fault) var).backend
    rw [stored_host_get] at hsame
    rw [commit_congr hsame] at hreply
    rw [(write_congr hsame var _).2] at hbackend
    rw [serve, hbackend]
    have hfail' : ((s.facing fault).locked var job).1 = .error e := hfail
    rw [stored_written_of_failure (writeFailure?_of_error (hreply.symm.trans hfail')),
      stored_facing]

/-- A read answers the same over any backend with the same text that fails it in the same way. -/
lemma get_facing {β : Type} [Backend β] [AtomicBackend β] (s : Store Host) (s' : Store β)
    (var : VarId) (h : Backend.stored s.backend var = Backend.stored s'.backend var) :
    ((s.facing ((s'.readFailure? var).map fun e => ⟨.get, e⟩)).get var).1 = (s'.get var).1 := by
  by_cases hkey : var.key = ""
  · simp only [get, if_pos hkey]
  · cases hread : s'.readFailure? var with
    | none =>
      have hnone : (s.facing ((none : Option StoreError).map fun e => ⟨.get, e⟩)).readFailure? var =
        none := rfl
      rw [get_of_success hkey hread, get_of_success hkey hnone, stored_facing, h]
    | some e =>
      rw [get_of_failure hkey hread, Option.map_some]
      exact get_of_failure hkey (readFailure?_facing_get s var e)

end Store

namespace System

variable {β : Type} [Backend β] {sys : System β} {ms : List (Move β)} {var : VarId}
  {raw : Option String} {h : List Deed} {t i : Ticket} {task : Task} {job : Job} {stage : Stage}
  {store : Store β}

/-! ## Reads at the same time -/

/-- What is known of the reads of a variable: each that has ended is in the history, with the answer
that the text after some of the calls in order would give. -/
structure Observed (var : VarId) (raw : Option String) (h : List Deed) (sys : System β) :
    Prop where
  between : ∀ d ∈ h, d.call = .get var → ∀ time reply, d.after = .answered time reply →
    ∃ pre, pre <+: services h var ∧
      reply = (((Store.serial var raw pre).facing d.fault).get var).1
  recorded : ∀ (t : Ticket) (task : Task) time reply, sys.tasks[t]? = some task →
    task.call = .get var → task.stage = .answered time reply →
    ∃ d ∈ h, d.ticket = t ∧ d.call = .get var ∧ d.after = .answered time reply

omit [Backend β] in
lemma Fresh.observed (hfresh : sys.Fresh) (var : VarId) (raw : Option String) :
    Observed var raw [] sys where
  between d hd := by cases hd
  recorded t task time reply ht _ hstage := by
    rw [hfresh.tasks task (List.mem_of_getElem? ht)] at hstage
    cases hstage

/-- A read that ends now answers by the text that stands there now. -/
lemma Advance.get_reply [AtomicBackend β] {time : Nat} {reply : Reply}
    (hadv : Advance sys t task (.answered time reply) store) (hcall : task.call = .get var)
    {s : Store Host}
    (hs : Backend.stored s.backend var = Backend.stored sys.store.backend var) :
    reply = ((s.facing (sys.fault? task)).get var).1 := by
  have hnone : task.call.job? = none := by rw [hcall]; rfl
  generalize hstage' : Stage.answered time reply = stage at hadv
  cases hadv with
  | ask _ hjob | granted _ hjob | refused _ hjob | found _ hjob | failed _ hjob | wrote _ hjob
  | left _ hjob =>
    rw [hnone] at hjob
    cases hjob
  | look => cases hstage'
  | idle _ hstage =>
    rw [← hstage'] at hstage
    cases hstage
  | rush hstage _ hread =>
    cases hstage'
    have hkey : var.key = "" := by simpa [hcall, Call.isRead] using hread
    simp only [hcall, Store.call, Store.get, if_pos hkey]
  | told hstage =>
    cases hstage'
    have hvar : task.call.var? = some var := by rw [hcall]; rfl
    have hfault : sys.fault? task = (sys.store.readFailure? var).map fun e => ⟨.get, e⟩ := by
      simp [fault?, hstage, hvar]
    rw [hfault, Store.get_facing s sys.store var hs, hcall]
    rfl

lemma Observed.move [AtomicBackend β] (ho : Observed var raw h sys) (hl : Ledger var raw h sys)
    (m : Move β) : Observed var raw (h ++ (sys.deed? m).toList) (sys.move m) := by
  have hservices : services h var <+: services (h ++ (sys.deed? m).toList) var := by
    rw [services, services, List.filterMap_append]
    exact List.prefix_append _ _
  have hold : ∀ d ∈ h, d.call = .get var → ∀ time reply, d.after = .answered time reply →
      ∃ pre, pre <+: services (h ++ (sys.deed? m).toList) var ∧
        reply = (((Store.serial var raw pre).facing d.fault).get var).1 := by
    intro d hd hcall time reply hafter
    obtain ⟨pre, hpre, hreply⟩ := ho.between d hd hcall time reply hafter
    exact ⟨pre, hpre.trans hservices, hreply⟩
  rcases sys.move_cases m with ⟨hnone, htasks, -⟩ | ⟨t, task, rfl, ht, hready, hdeed, hmove⟩
  · rw [hnone, Option.toList_none, List.append_nil] at hold ⊢
    exact ⟨hold, by rw [htasks]; exact ho.recorded⟩
  · have hadv := advance_turn hready
    obtain ⟨since, htasks⟩ := exists_enter ht (sys.turn t task).1 (sys.turn t task).2
    rw [hdeed, Option.toList_some] at hold hservices ⊢
    rw [hmove]
    constructor
    · intro d hd hcall time reply hafter
      rcases List.mem_append.1 hd with hd | hd
      · exact hold d hd hcall time reply hafter
      · rw [List.mem_singleton.1 hd] at hcall hafter ⊢
        have hafter' : (sys.turn t task).1 = .answered time reply := hafter
        rw [hafter'] at hadv
        exact ⟨services h var, hservices, hadv.get_reply hcall hl.text⟩
    · intro i other time reply hi hcall hstage
      rw [htasks] at hi
      by_cases hit : i = t
      · rw [if_pos hit] at hi
        cases hi
        exact ⟨_, List.mem_append_right _ (List.mem_singleton_self _), hit.symm, hcall, hstage⟩
      · rw [if_neg hit] at hi
        obtain ⟨d, hd, hrest⟩ := ho.recorded i other time reply hi hcall hstage
        exact ⟨d, List.mem_append_left _ hd, hrest⟩

/-- Nobody writes a variable but by locked calls: no task makes a plain write of it, and what
happens to the backend from outside leaves it alone. -/
structure Calm (sys : System β) (ms : List (Move β)) (var : VarId) : Prop where
  tasks : ∀ task ∈ sys.tasks, ¬ task.call.Writes var
  outside : ∀ change, .outside change ∈ ms → ∀ b : β,
    Backend.stored (change b) var = Backend.stored b var

lemma Calm.of_append {ms' : List (Move β)} (h : sys.Calm (ms ++ ms') var) : sys.Calm ms var :=
  ⟨h.tasks, fun change hmem => h.outside change (List.mem_append_left _ hmem)⟩

lemma Calm.ledger [AtomicBackend β] (hcalm : sys.Calm ms var) (hfresh : sys.Fresh) :
    Ledger var (Backend.stored sys.store.backend var) (sys.history ms) (sys.moves ms) :=
  hfresh.ledger_moves ms hcalm.tasks hcalm.outside

lemma Calm.observed [AtomicBackend β] (hcalm : sys.Calm ms var) (hfresh : sys.Fresh) :
    Observed var (Backend.stored sys.store.backend var) (sys.history ms) (sys.moves ms) := by
  induction ms using List.reverseRecOn with
  | nil => exact hfresh.observed var _
  | append_singleton ms m ih =>
    rw [moves_concat, history_concat]
    exact (ih hcalm.of_append).move (hcalm.of_append.ledger hfresh) m

/-! ## Calls without a key -/

lemma Call.key_ne_of_isRead {c : Call} (hread : c.isRead = true) (hvar : c.var? = some var) :
    var.key ≠ "" := by
  cases c with
  | get v | isSet v =>
    cases hvar
    simpa [Call.isRead] using hread
  | _ => cases hread

/-- A call on a variable without a key is not started, or has its answer. -/
def Keyless (stage : Stage) : Prop :=
  stage = .waiting ∨ ∃ time, stage = .answered time (.error .emptyKey)

lemma Advance.keyless (hadv : Advance sys t task stage store) (hvar : task.call.var? = some var)
    (hkey : var.key = "") (h : Keyless task.stage) : Keyless stage := by
  have hnone : task.call.job? = none := by
    cases hjob : task.call.job? with
    | none => rfl
    | some p =>
      obtain ⟨v, job⟩ := p
      rw [Call.var?_of_job? hjob] at hvar
      cases hvar
      exact absurd hkey (Call.key_ne_of_job? hjob)
  cases hadv with
  | ask _ hjob | granted _ hjob | refused _ hjob | found _ hjob | failed _ hjob | wrote _ hjob
  | left _ hjob =>
    rw [hnone] at hjob
    cases hjob
  | look _ _ hread =>
    exact absurd hkey (Call.key_ne_of_isRead hread hvar)
  | rush => exact .inr ⟨_, by rw [Store.call_of_emptyKey _ hvar hkey]⟩
  | told hstage =>
    rw [hstage] at h
    rcases h with h | ⟨time, h⟩ <;> cases h
  | idle _ _ => exact h

lemma Fresh.keyless (hfresh : sys.Fresh) (ms : List (Move β)) (hkey : var.key = "")
    (ht : (sys.moves ms).tasks[t]? = some task) (hvar : task.call.var? = some var) :
    Keyless task.stage := by
  induction ms using List.reverseRecOn generalizing t task with
  | nil => exact .inl (hfresh.tasks task (List.mem_of_getElem? ht))
  | append_singleton ms m ih =>
    rw [moves_concat] at ht
    rcases (sys.moves ms).move_cases m with
      ⟨-, htasks, -⟩ | ⟨i, other, -, hi, hready, -, hmove⟩
    · rw [htasks] at ht
      exact ih ht hvar
    · obtain ⟨since, htasks⟩ := exists_enter hi ((sys.moves ms).turn i other).1
        ((sys.moves ms).turn i other).2
      rw [hmove, htasks] at ht
      split at ht
      · next hit =>
        cases ht
        exact (advance_turn hready).keyless hvar hkey (ih hi hvar)
      · exact ih ht hvar

/-! ## The whole -/

/-- A locked call that does not hold its lock makes no call to the backend. -/
lemma Advance.backend_of_not_served (hadv : Advance sys t task stage store)
    (hjob : task.call.job? = some (var, job)) (hout : task.stage.isServed = false) :
    store.backend = sys.store.backend := by
  cases hadv with
  | ask | granted | refused | look | idle => rfl
  | rush _ hnone | told _ hnone =>
    rw [hnone] at hjob
    cases hjob
  | found hstage | failed hstage | wrote hstage | left hstage =>
    rw [hstage] at hout
    cases hout

/-- One who is not granted the lock never holds it. -/
lemma Calm.not_served [AtomicBackend β] {ms₁ ms₂ : List (Move β)} {other : Task}
    (hcalm : sys.Calm (ms₁ ++ ms₂) var) (hfresh : sys.Fresh)
    (ht : (sys.moves (ms₁ ++ ms₂)).tasks[t]? = some task)
    (hjob : task.call.job? = some (var, job)) (hnot : t ∉ grants (sys.history (ms₁ ++ ms₂)) var)
    (hother : (sys.moves ms₁).tasks[t]? = some other) :
    other.call.job? = some (var, job) ∧ other.stage.isServed = false := by
  rw [moves_append] at ht
  obtain ⟨other', hother', hcall, -⟩ := exists_of_moves ms₂ ht
  rw [hother] at hother'
  cases hother'
  rw [hcall] at hjob
  refine ⟨hjob, ?_⟩
  cases hserved : other.stage.isServed with
  | false => rfl
  | true =>
    refine absurd ?_ hnot
    rw [history_append, grants, List.filterMap_append]
    exact List.mem_append_left _ ((hcalm.of_append.ledger hfresh).mem_grants hother hjob hserved)

/-- So it makes no call to the backend in any of its turns. -/
lemma Calm.backend_of_refused [AtomicBackend β] {ms₁ ms₂ : List (Move β)}
    (hcalm : sys.Calm (ms₁ ++ .turn t :: ms₂) var) (hfresh : sys.Fresh)
    (ht : (sys.moves (ms₁ ++ .turn t :: ms₂)).tasks[t]? = some task)
    (hjob : task.call.job? = some (var, job))
    (hnot : t ∉ grants (sys.history (ms₁ ++ .turn t :: ms₂)) var) :
    ((sys.moves ms₁).move (.turn t)).store.backend = (sys.moves ms₁).store.backend := by
  rcases (sys.moves ms₁).move_cases (.turn t) with
    ⟨-, -, -, hsame | ⟨change, habs, -⟩⟩ | ⟨i, other, hi, hother, hready, -, hmove⟩
  · exact hsame
  · cases habs
  · cases hi
    obtain ⟨hjob', hout⟩ := hcalm.not_served hfresh ht hjob hnot hother
    rw [hmove, store_enter]
    exact (advance_turn hready).backend_of_not_served hjob' hout

/-- And it never has a value to give to its function. -/
lemma Calm.current_of_refused [AtomicBackend β] (hcalm : sys.Calm ms var) (hfresh : sys.Fresh)
    (ht : (sys.moves ms).tasks[t]? = some task) (hjob : task.call.job? = some (var, job))
    (hnot : t ∉ grants (sys.history ms) var) {d : Deed} (hd : d ∈ sys.history ms)
    (hticket : d.ticket = t) : d.before.current? = none := by
  obtain ⟨ms₁, i, ms₂, other, rfl, hother, rfl⟩ := exists_of_mem_history hd
  cases hticket
  obtain ⟨-, hout⟩ := hcalm.not_served hfresh ht hjob hnot hother
  revert hout
  dsimp only
  cases other.stage <;> simp [Stage.isServed, Stage.current?]

/-- A service that failed has left the text as it was. -/
lemma Ledger.stored_of_failed (hl : Ledger var raw h sys) {pre post : List Service} {x : Service}
    {e : StoreError} (heq : services h var = pre ++ x :: post) (hfail : x.reply = .error e) :
    Backend.stored (Store.serial var raw (pre ++ [x])).backend var =
      Backend.stored (Store.serial var raw pre).backend var := by
  have hkey := key_ne_of_mem_services (heq ▸ List.mem_append_right pre List.mem_cons_self)
  have hreplay := hl.replay pre x post heq
  rw [Store.serial_concat, Store.stored_serve_of_error hkey (Store.unused_serial hkey _ pre)
    (by rw [hreplay]; exact hfail)]

/-- What a run comes to for a variable: its locked calls, made one after another. -/
structure Linearized (sys : System β) (ms : List (Move β)) (var : VarId) : Prop where
  /-- The calls come to their answers in the order in which their locks were granted; at most one
  of them has its lock and no answer yet. -/
  order : ∃ pending, grants (sys.history ms) var =
      (services (sys.history ms) var).map (·.ticket) ++ pending ∧ pending.length ≤ 1 ∧
    ∀ t ∈ pending, ∃ task, (sys.moves ms).tasks[t]? = some task ∧ task.stage.isUnderway = true
  /-- No lock is granted to a call twice. -/
  once : (grants (sys.history ms) var).Nodup
  /-- What the function of each call was given, and what each call answered, is what it would be
  given and answer if the calls before it were made one after another, and then this one. -/
  replay : Store.Replayed var (Backend.stored sys.store.backend var)
    (services (sys.history ms) var)
  /-- The text that is left is the one after all of them. -/
  text : Backend.stored (Store.serial var (Backend.stored sys.store.backend var)
      (services (sys.history ms) var)).backend var =
    Backend.stored (sys.moves ms).store.backend var
  /-- What a task answered is what its call answered among them, or it was refused its lock when its
  time was over. -/
  answers : ∀ (t : Ticket) (task : Task) (job : Job) (time : Nat) (reply : Reply),
    (sys.moves ms).tasks[t]? = some task → task.call.job? = some (var, job) →
    task.stage = .answered time reply →
    (∃ x ∈ services (sys.history ms) var, x.ticket = t ∧ x.job = job ∧ x.reply = reply) ∨
      t ∉ grants (sys.history ms) var ∧ ∃ limit, (sys.moves ms).limitOf task = some limit ∧
        reply = .error (.lockTimeout var limit)
  /-- A call that was not granted its lock has not called the backend in any of its turns, and never
  had a value to give to its function. -/
  refused : ∀ (t : Ticket) (task : Task) (job : Job), (sys.moves ms).tasks[t]? = some task →
    task.call.job? = some (var, job) → t ∉ grants (sys.history ms) var →
    (∀ ms₁ ms₂, ms = ms₁ ++ .turn t :: ms₂ →
      ((sys.moves ms₁).move (.turn t)).store.backend = (sys.moves ms₁).store.backend) ∧
    ∀ d ∈ sys.history ms, d.ticket = t → d.before.current? = none
  /-- A call that failed has left the text as it was. -/
  failed : ∀ pre x post e, services (sys.history ms) var = pre ++ x :: post →
    x.reply = .error e →
    Backend.stored (Store.serial var (Backend.stored sys.store.backend var)
        (pre ++ [x])).backend var =
      Backend.stored (Store.serial var (Backend.stored sys.store.backend var) pre).backend var
  /-- A read at the same time has answered what it answers after some of the calls in order, and met
  the failure that it met. -/
  reads : ∀ (t : Ticket) (task : Task) (time : Nat) (reply : Reply),
    (sys.moves ms).tasks[t]? = some task → task.call = .get var →
    task.stage = .answered time reply →
    ∃ d ∈ sys.history ms, d.ticket = t ∧ d.after = .answered time reply ∧
      ∃ pre, pre <+: services (sys.history ms) var ∧
        reply = (((Store.serial var (Backend.stored sys.store.backend var) pre).facing
          d.fault).get var).1
  /-- A call on a variable without a key has answered that it has none. -/
  keyless : var.key = "" → ∀ (t : Ticket) (task : Task) (time : Nat) (reply : Reply),
    (sys.moves ms).tasks[t]? = some task → task.call.var? = some var →
    task.stage = .answered time reply → reply = .error .emptyKey

/-- Whatever the backend, the calls, the time limits and the order of the turns: if nobody writes a
variable in another way, its locked calls are made one after another. -/
theorem moves_linearized [AtomicBackend β] (hfresh : sys.Fresh) (hcalm : sys.Calm ms var) :
    sys.Linearized ms var := by
  have hl := hcalm.ledger hfresh
  have ho := hcalm.observed hfresh
  refine ⟨hl.exists_pending, hl.nodup, hl.replay, hl.text, ?_, ?_, ?_, ?_, ?_⟩
  · intro t task job time reply ht hjob hstage
    have hs := hl.stands t task job ht hjob
    rw [hstage] at hs
    exact hs
  · intro t task job ht hjob hnot
    constructor
    · intro ms₁ ms₂ heq
      subst heq
      exact hcalm.backend_of_refused hfresh ht hjob hnot
    · intro d hd hticket
      exact hcalm.current_of_refused hfresh ht hjob hnot hd hticket
  · intro pre x post e heq hfail
    exact hl.stored_of_failed heq hfail
  · intro t task time reply ht hcall hstage
    obtain ⟨d, hd, hticket, hcall', hafter⟩ := ho.recorded t task time reply ht hcall hstage
    exact ⟨d, hd, hticket, hafter, ho.between d hd hcall' time reply hafter⟩
  · intro hkey t task time reply ht hvar hstage
    rcases hfresh.keyless ms hkey ht hvar with hwait | ⟨time', hans⟩
    · rw [hstage] at hwait
      cases hwait
    · rw [hstage] at hans
      cases hans
      rfl

/-- A variable of the global scope. -/
def counter : VarId := ⟨.global, "n"⟩

/-- An increment, an update and a read of one variable at the same time. -/
def race : System Host where
  store := { backend := {} }
  tasks := [{ call := .increment counter (.int64 2) },
    { call := .update counter fun _ => some (.boolean true), limit := some none },
    { call := .get counter }]

/-- The update asks for the lock while the increment holds it, and the read ends in between. -/
def raceMoves : List (Move Host) :=
  [.turn 0, .turn 0, .turn 1, .turn 2, .turn 0, .turn 1, .turn 0, .turn 2, .turn 0, .turn 1,
    .turn 1, .turn 1, .turn 1]

theorem race_linearized : race.Fresh ∧ race.Calm raceMoves counter ∧
    grants (race.history raceMoves) counter = [0, 1] ∧ race.Linearized raceMoves counter := by
  have hfresh : race.Fresh := ⟨⟨rfl, rfl⟩, by simp [race]⟩
  have hcalm : race.Calm raceMoves counter :=
    ⟨by simp [race, Call.Writes], by simp [raceMoves]⟩
  exact ⟨hfresh, hcalm, by decide +kernel, moves_linearized hfresh hcalm⟩

end System

end TypedVars
