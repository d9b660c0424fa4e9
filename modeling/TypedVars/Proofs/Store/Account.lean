import TypedVars.Proofs.Store.Increments
import TypedVars.Proofs.Store.Outcome

/-!
# Accounts of calls

A call can be followed from outside, by what it asks the backend and hears in answer, and by what it
tells the log.  The account of a call lists both in their order (`Account`).  It is kept for calls
that are made one after another (`Store.accounts`), and for tasks that take turns
(`System.accounts`), where it has what was heard and told in the turns of the task.

Every account is one of a few stories (`LockedStory`, `FreeStory`): what is told and answered
follows from what was heard.  And the accounts of a run leave nothing out: the journal has grown by
a report of just the events that they tell (`Accounted`).
-/

namespace TypedVars

/-- A call on the backend, and what it answered. -/
structure Exchange where
  asked : BackendCall
  answer : Except StoreError BackendAnswer

/-- A task as it stands, what it has heard from the backend, and what it has told the log. -/
structure Account where
  task : Task
  heard : List Exchange
  told : List Event

/-! ## Stories -/

/-- What the account of a locked call can be, at each stage. -/
inductive LockedStory (var : VarId) (job : Job) : Stage → List Exchange → List Event → Prop where
  | waiting : LockedStory var job .waiting [] []
  | queued (since : Nat) : LockedStory var job (.queued since) [] []
  | refused (time limit : Nat) :
    LockedStory var job (.answered time (.error (.lockTimeout var limit))) []
      [.lockTimedOut var limit]
  | reading (due : Nat) : LockedStory var job (.reading due) [] [.lockAcquired var]
  | deciding (raw : Option String) :
    LockedStory var job (.deciding (valueOf raw)) [⟨.get var, .ok (.text raw)⟩]
      (.lockAcquired var :: discards var raw)
  | unread (e : StoreError) :
    LockedStory var job (.leaving (.error e)) [⟨.get var, .error e⟩] [.lockAcquired var]
  | written (raw : Option String) (answer : Except StoreError BackendAnswer) :
    LockedStory var job (.leaving (answer.map fun _ => (job.decide (valueOf raw)).answer))
      [⟨.get var, .ok (.text raw)⟩, ⟨.ofWrite var (job.decide (valueOf raw)).written, answer⟩]
      (.lockAcquired var :: discards var raw ++ resets var (job.decide (valueOf raw)).reset)
  | left {reply : Reply} {heard : List Exchange} {told : List Event} (time : Nat)
    (h : LockedStory var job (.leaving reply) heard told) :
    LockedStory var job (.answered time reply) heard (told ++ conclusions var job reply)

/-- What the account of a call without a lock can be, at each stage. -/
inductive FreeStory (c : Call) : Stage → List Exchange → List Event → Prop where
  | waiting : FreeStory c .waiting [] []
  | reading (due : Nat) : FreeStory c (.reading due) [] []
  | refused {e : StoreError} (time : Nat) (h : c.demand = .error e) :
    FreeStory c (.answered time (.error e)) [] []
  | failed {bc : BackendCall} (time : Nat) (e : StoreError) (h : c.demand = .ok bc) :
    FreeStory c (.answered time (.error e)) [⟨bc, .error e⟩] []
  | answered {bc : BackendCall} (time : Nat) (answer : BackendAnswer) (h : c.demand = .ok bc) :
    FreeStory c (.answered time (c.reply answer)) [⟨bc, .ok answer⟩] (c.remarks answer)

/-- An account is one of the stories of its call. -/
inductive Account.Kept : Account → Prop where
  | locked {task : Task} {var : VarId} {job : Job} {heard : List Exchange} {told : List Event}
    (hjob : task.call.job? = some (var, job)) (h : LockedStory var job task.stage heard told) :
    Kept ⟨task, heard, told⟩
  | free {task : Task} {heard : List Exchange} {told : List Event}
    (hjob : task.call.job? = none) (h : FreeStory task.call task.stage heard told) :
    Kept ⟨task, heard, told⟩

/-- The accounts of some calls are stories of them, and the journal has grown by a report of what
they tell. -/
structure Accounted (j j' : Journal) (accounts : List Account) : Prop where
  kept : ∀ a ∈ accounts, a.Kept
  reported : ∃ es, j' = j.report es ∧ es.Perm (accounts.flatMap (·.told))

/-! ## The parts of a call -/

namespace Store

variable {β : Type} [Backend β] {s : Store β} {c : Call} {var : VarId}

/-- A call on the backend, and what it would answer now. -/
def exchange (s : Store β) (bc : BackendCall) : Exchange := ⟨bc, (Backend.call s.backend bc).1⟩

lemma fetch_cases (s : Store β) (var : VarId) :
    (∃ e, s.exchange (.get var) = ⟨.get var, .error e⟩ ∧ (s.fetch var).1 = .error e ∧
      (s.fetch var).2.journal = s.journal) ∨
    ∃ raw, s.exchange (.get var) = ⟨.get var, .ok (.text raw)⟩ ∧
      (s.fetch var).1 = .ok (valueOf raw) ∧
      (s.fetch var).2.journal = s.journal.report (discards var raw) := by
  have hexchange : s.exchange (.get var) =
      ⟨.get var, (Backend.get var s.backend).1.map .text⟩ := rfl
  rcases s.journal_fetch_cases var with ⟨e, hget, hfetch⟩ | ⟨raw, hget, hfetch⟩
  · exact .inl ⟨e, by rw [hexchange, hget]; rfl, hfetch⟩
  · exact .inr ⟨raw, by rw [hexchange, hget]; rfl, hfetch⟩

lemma commit_reply (s : Store β) (var : VarId) (job : Job) (current : Option Value) :
    (s.commit var job current).1 =
      (s.exchange (.ofWrite var (job.decide current).written)).answer.map
        fun _ => (job.decide current).answer := by
  rw [(commit_eq s var job current).1]
  cases (job.decide current).written with
  | none =>
    simp only [write, ask_eq, exchange, Backend.call, BackendCall.ofWrite]
    rcases Backend.unset var s.backend with ⟨e | _, backend⟩ <;> rfl
  | some v =>
    simp only [write, ask_eq, exchange, Backend.call, BackendCall.ofWrite]
    rcases Backend.set var v.encode s.backend with ⟨e | _, backend⟩ <;> rfl

/-- What a call without a lock hears. -/
def freeExchanges (s : Store β) (c : Call) : List Exchange :=
  (c.demand.toOption.map s.exchange).toList

lemma exists_freeStory (hjob : c.job? = none) (time : Nat) : ∃ es,
    (s.call c).2.journal = s.journal.report es ∧
      FreeStory c (.answered time (s.call c).1) (s.freeExchanges c) es := by
  cases hdemand : c.demand with
  | error e =>
    rw [call_of_refused hdemand, freeExchanges, hdemand]
    exact ⟨[], (s.journal.report_nil).symm, .refused time hdemand⟩
  | ok bc =>
    rw [call_eq_heard hjob hdemand, freeExchanges, hdemand]
    change ∃ es, _ ∧ FreeStory c _ [⟨bc, (Backend.call s.backend bc).1⟩] es
    cases hanswer : (Backend.call s.backend bc).1 with
    | error e =>
      rw [heard_of_error hanswer]
      exact ⟨[], (s.journal.report_nil).symm, .failed time e hdemand⟩
    | ok answer =>
      rw [heard_of_ok hanswer]
      exact ⟨_, Call.remark_eq s.journal c answer, .answered time answer hdemand⟩

/-- What a locked call hears, once it has its lock. -/
def servedExchanges (s : Store β) (var : VarId) (job : Job) : List Exchange :=
  s.exchange (.get var) ::
    match s.fetch var with
    | (.error _, _) => []
    | (.ok current, s) => [s.exchange (.ofWrite var (job.decide current).written)]

/-- What a locked call hears. -/
def lockedExchanges (s : Store β) (var : VarId) (job : Job) : List Exchange :=
  let s := s.request var soleTicket
  if s.locks.holds soleTicket then (s.granted var).servedExchanges var job else []

lemma exists_lockedStory (s : Store β) (hkey : var.key ≠ "") (job : Job) (time : Nat) : ∃ es,
    (s.locked var job).2.journal = s.journal.report es ∧
      LockedStory var job (.answered time (s.locked var job).1) (s.lockedExchanges var job) es := by
  unfold locked lockedExchanges
  rw [if_neg hkey]
  dsimp only
  split
  · have hgranted : ((s.request var soleTicket).granted var).journal =
        s.journal.report [.lockAcquired var] := Journal.lockGranted_eq _ _
    generalize (s.request var soleTicket).granted var = s₁ at *
    unfold servedExchanges
    rcases s₁.fetch_cases var with ⟨e, hheard, hfetch, hjournal⟩ | ⟨raw, hheard, hfetch, hjournal⟩
    · generalize s₁.fetch var = p at *
      obtain ⟨_, s₂⟩ := p
      cases hfetch
      have hstory : LockedStory var job (.answered time (.error e)) [⟨.get var, .error e⟩] _ :=
        .left time (.unread e)
      rw [conclusions_error, List.append_nil] at hstory
      rw [hheard]
      exact ⟨_, hjournal.trans hgranted, hstory⟩
    · generalize s₁.fetch var = p at *
      obtain ⟨_, s₂⟩ := p
      cases hfetch
      have hwritten : LockedStory var job _ _ _ := .written raw
        (s₂.exchange (.ofWrite var (job.decide (valueOf raw)).written)).answer
      have hstory := hwritten.left time
      rw [← commit_reply] at hstory
      rw [hheard]
      refine ⟨_, ?_, hstory⟩
      rw [journal_conclude]
      change (s₂.commit var job (valueOf raw)).2.journal.report _ = _
      rw [journal_commit, hjournal, hgranted]
      simp only [Journal.report_report]
      rfl
  · exact ⟨_, Journal.lockRefused_eq _ _ _, .refused time _⟩

/-! ## Calls one after another -/

/-- What a call hears that is made on its own. -/
def exchanges (s : Store β) (c : Call) : List Exchange :=
  match c.job? with
  | some (var, job) => s.lockedExchanges var job
  | none => s.freeExchanges c

/-- The accounts of some calls, one after another. -/
def accounts (s : Store β) : List Call → List Account
  | [] => []
  | c :: cs =>
    { task := { call := c, stage := .answered 0 (s.call c).1 }
      heard := s.exchanges c
      told := (s.call c).2.journal.events.drop s.journal.events.length } :: (s.call c).2.accounts cs

/-- The accounts have the calls and their answers. -/
lemma map_accounts (s : Store β) (cs : List Call) :
    (s.accounts cs).map (fun a => (a.task.call, a.task.stage.reply?)) =
      cs.zip ((s.calls cs).1.map some) := by
  induction cs generalizing s with
  | nil => rfl
  | cons c cs ih => exact congrArg _ (ih _)

lemma exists_story (s : Store β) (c : Call) : ∃ es,
    (s.call c).2.journal = s.journal.report es ∧
      Account.Kept ⟨{ call := c, stage := .answered 0 (s.call c).1 }, s.exchanges c, es⟩ := by
  cases hjob : c.job? with
  | none =>
    obtain ⟨es, hjournal, hstory⟩ := exists_freeStory (s := s) hjob 0
    simp only [exchanges, hjob]
    exact ⟨es, hjournal, .free hjob hstory⟩
  | some p =>
    obtain ⟨var, job⟩ := p
    obtain ⟨es, hjournal, hstory⟩ := s.exists_lockedStory (Call.key_ne_of_job? hjob) job 0
    rw [call_of_job? hjob]
    simp only [exchanges, hjob]
    exact ⟨es, hjournal, .locked hjob hstory⟩

theorem accounted (s : Store β) (cs : List Call) :
    Accounted s.journal (s.calls cs).2.journal (s.accounts cs) := by
  induction cs generalizing s with
  | nil => exact ⟨by simp [accounts], [], (s.journal.report_nil).symm, List.Perm.refl _⟩
  | cons c cs ih =>
    obtain ⟨es, hjournal, hkept⟩ := s.exists_story c
    obtain ⟨hrest, es', hjournal', hperm⟩ := ih (s.call c).2
    have htold : (s.call c).2.journal.events.drop s.journal.events.length = es := by
      rw [hjournal, Journal.drop_events_report]
    refine ⟨?_, es ++ es', ?_, ?_⟩
    · intro a ha
      rcases List.mem_cons.1 ha with rfl | ha
      · rw [htold]
        exact hkept
      · exact hrest a ha
    · rw [← Journal.report_report, ← hjournal]
      exact hjournal'
    · rw [accounts, List.flatMap_cons, htold]
      exact hperm.append_left es

end Store

/-! ## Tasks that take turns -/

namespace System

variable {β : Type} [Backend β] {sys : System β} {t i : Ticket} {task : Task} {stage : Stage}
  {store : Store β} {var : VarId} {job : Job} {xs : List Exchange} {es : List Event}

/-- What a task hears in its turn. -/
def exchanges (sys : System β) (task : Task) : List Exchange :=
  (task.ask?.map sys.store.exchange).toList

/-- What a task hears in one move. -/
def heardIn (sys : System β) (t : Ticket) : Move β → List Exchange
  | .turn i =>
    if i = t then
      match sys.tasks[t]? with
      | some task => if sys.isReady t task then sys.exchanges task else []
      | none => []
    else []
  | _ => []

/-- What a task tells in one move. -/
def toldIn (sys : System β) (t : Ticket) : Move β → List Event
  | .turn i =>
    if i = t then (sys.step t).store.journal.events.drop sys.store.journal.events.length else []
  | _ => []

/-- What some moves come to together, each in the state in which it is made. -/
def gather {α : Type} (each : System β → Move β → List α) (sys : System β) :
    List (Move β) → List α
  | [] => []
  | m :: ms => each sys m ++ gather each (sys.move m) ms

/-- What a task hears in some moves. -/
def heard (sys : System β) (t : Ticket) (ms : List (Move β)) : List Exchange :=
  gather (heardIn · t) sys ms

/-- What a task tells in some moves. -/
def told (sys : System β) (t : Ticket) (ms : List (Move β)) : List Event :=
  gather (toldIn · t) sys ms

/-- The accounts of the tasks after some moves. -/
def accounts (sys : System β) (ms : List (Move β)) : List Account :=
  (sys.moves ms).tasks.mapIdx fun t task => ⟨task, sys.heard t ms, sys.told t ms⟩

lemma gather_concat {α : Type} (each : System β → Move β → List α) (sys : System β)
    (ms : List (Move β)) (m : Move β) :
    gather each sys (ms ++ [m]) = gather each sys ms ++ each (sys.moves ms) m := by
  induction ms generalizing sys with
  | nil => exact List.append_nil _
  | cons m' ms ih =>
    rw [List.cons_append, gather, gather, ih, List.append_assoc]
    rfl

lemma heard_concat (sys : System β) (t : Ticket) (ms : List (Move β)) (m : Move β) :
    sys.heard t (ms ++ [m]) = sys.heard t ms ++ (sys.moves ms).heardIn t m :=
  gather_concat (heardIn · t) sys ms m

lemma told_concat (sys : System β) (t : Ticket) (ms : List (Move β)) (m : Move β) :
    sys.told t (ms ++ [m]) = sys.told t ms ++ (sys.moves ms).toldIn t m :=
  gather_concat (toldIn · t) sys ms m

lemma exchanges_of_reading {due : Nat} (hjob : task.call.job? = some (var, job))
    (hstage : task.stage = .reading due) :
    sys.exchanges task = [sys.store.exchange (.get var)] := by
  simp [exchanges, Task.ask?, hstage, Call.demand_of_job? hjob, Except.toOption]

lemma Advance.lockedStory (hadv : Advance sys t task stage store)
    (hjob : task.call.job? = some (var, job)) (h : LockedStory var job task.stage xs es) :
    ∃ new, store.journal = sys.store.journal.report new ∧
      LockedStory var job stage (xs ++ sys.exchanges task) (es ++ new) := by
  cases hadv with
  | ask hstage hjob' =>
    rw [hstage] at h
    cases h
    refine ⟨[], (sys.store.journal.report_nil).symm, ?_⟩
    simpa [exchanges, Task.ask?, hstage, hjob] using LockedStory.queued sys.now
  | granted hstage hjob' hholds =>
    cases hjob.symm.trans hjob'
    rw [hstage] at h
    cases h
    refine ⟨[.lockAcquired var], rfl, ?_⟩
    simpa [exchanges, Task.ask?, hstage, hjob] using LockedStory.reading (sys.now + sys.delay)
  | @refused _ _ since limit hstage hjob' hholds hlimit =>
    cases hjob.symm.trans hjob'
    rw [hstage] at h
    cases h
    refine ⟨[.lockTimedOut var limit], rfl, ?_⟩
    simpa [exchanges, Task.ask?, hstage, hjob] using LockedStory.refused sys.now limit
  | @found _ _ due current hstage hjob' hfetch =>
    cases hjob.symm.trans hjob'
    rw [exchanges_of_reading hjob hstage]
    rw [hstage] at h
    cases h
    rcases sys.store.fetch_cases var with ⟨e, -, hanswer, -⟩ | ⟨raw, hheard, hanswer, hjournal⟩
    · rw [hanswer] at hfetch
      cases hfetch
    · rw [hanswer] at hfetch
      cases hfetch
      rw [hheard]
      exact ⟨_, hjournal, .deciding raw⟩
  | @failed _ _ due e hstage hjob' hfetch =>
    cases hjob.symm.trans hjob'
    rw [exchanges_of_reading hjob hstage]
    rw [hstage] at h
    cases h
    rcases sys.store.fetch_cases var with ⟨e, hheard, hanswer, hjournal⟩ | ⟨raw, -, hanswer, -⟩
    · rw [hanswer] at hfetch
      cases hfetch
      rw [hheard]
      exact ⟨[], by rw [hjournal, Journal.report_nil], .unread e⟩
    · rw [hanswer] at hfetch
      cases hfetch
  | @wrote _ _ current hstage hjob' =>
    cases hjob.symm.trans hjob'
    rw [hstage] at h
    cases h with
    | deciding raw =>
      have hask : sys.exchanges task =
          [sys.store.exchange (.ofWrite var (job.decide (valueOf raw)).written)] := by
        simp [exchanges, Task.ask?, hstage, hjob]
      rw [hask, Store.commit_reply]
      exact ⟨_, sys.store.journal_commit var job (valueOf raw), .written raw _⟩
  | @left _ _ reply hstage hjob' =>
    cases hjob.symm.trans hjob'
    rw [hstage] at h
    have hask : sys.exchanges task = [] := by simp [exchanges, Task.ask?, hstage, hjob]
    rw [hask, List.append_nil]
    exact ⟨_, Store.journal_conclude _ var job reply, .left sys.now h⟩
  | look hstage hjob' | rush hstage hjob' | told hstage hjob' | idle hjob' hstage =>
    rw [hjob] at hjob'
    cases hjob'

lemma Advance.freeStory (hadv : Advance sys t task stage store) (hjob : task.call.job? = none)
    (h : FreeStory task.call task.stage xs es) :
    ∃ new, store.journal = sys.store.journal.report new ∧
      FreeStory task.call stage (xs ++ sys.exchanges task) (es ++ new) := by
  cases hadv with
  | look hstage hjob' hread =>
    rw [hstage] at h
    cases h
    refine ⟨[], (sys.store.journal.report_nil).symm, ?_⟩
    simpa [exchanges, Task.ask?, hstage, hjob, hread] using
      FreeStory.reading (sys.now + sys.delay)
  | rush hstage hjob' hread =>
    rw [hstage] at h
    cases h
    have hask : sys.exchanges task = sys.store.freeExchanges task.call := by
      simp [exchanges, Task.ask?, hstage, hjob, hread, Store.freeExchanges]
    rw [hask]
    exact Store.exists_freeStory hjob sys.now
  | told hstage hjob' =>
    rw [hstage] at h
    cases h
    have hask : sys.exchanges task = sys.store.freeExchanges task.call := by
      simp [exchanges, Task.ask?, hstage, Store.freeExchanges]
    rw [hask]
    exact Store.exists_freeStory hjob sys.now
  | idle hjob' hstage =>
    -- a call without a lock gets to no stage of locked calls
    generalize task.stage = stage at h hstage
    cases h <;> cases hstage
  | ask hstage hjob' | granted hstage hjob' | refused hstage hjob' | found hstage hjob'
  | failed hstage hjob' | wrote hstage hjob' | left hstage hjob' =>
    rw [hjob] at hjob'
    cases hjob'

/-- In its turn a task goes on with its story. -/
lemma Advance.kept (hadv : Advance sys t task stage store) (h : Account.Kept ⟨task, xs, es⟩) :
    ∃ new, store.journal = sys.store.journal.report new ∧ ∀ since,
      Account.Kept ⟨{ task with stage, since }, xs ++ sys.exchanges task, es ++ new⟩ := by
  cases h with
  | locked hjob h =>
    obtain ⟨new, hjournal, hstory⟩ := hadv.lockedStory hjob h
    exact ⟨new, hjournal, fun _ => .locked hjob hstory⟩
  | free hjob h =>
    obtain ⟨new, hjournal, hstory⟩ := hadv.freeStory hjob h
    exact ⟨new, hjournal, fun _ => .free hjob hstory⟩

/-! ### Runs -/

lemma getElem?_accounts (sys : System β) (ms : List (Move β)) (t : Ticket) :
    (sys.accounts ms)[t]? = (sys.moves ms).tasks[t]?.map
      fun task => ⟨task, sys.heard t ms, sys.told t ms⟩ := List.getElem?_mapIdx

/-- The accounts have the tasks as they stand. -/
lemma map_accounts (sys : System β) (ms : List (Move β)) :
    (sys.accounts ms).map (·.task) = (sys.moves ms).tasks := by
  apply List.ext_getElem?
  intro t
  rw [List.getElem?_map, getElem?_accounts, Option.map_map]
  exact Option.map_id'

lemma accounts_concat_of_pass {ms : List (Move β)} {m : Move β}
    (htasks : ((sys.moves ms).move m).tasks = (sys.moves ms).tasks)
    (hheard : ∀ t, (sys.moves ms).heardIn t m = []) (htold : ∀ t, (sys.moves ms).toldIn t m = []) :
    sys.accounts (ms ++ [m]) = sys.accounts ms := by
  apply List.ext_getElem?
  intro t
  rw [getElem?_accounts, getElem?_accounts, moves_concat, htasks, heard_concat, told_concat, hheard,
    htold, List.append_nil, List.append_nil]

lemma accounts_concat_of_turn {ms : List (Move β)} {new : List Event}
    (ht : (sys.moves ms).tasks[t]? = some task) (hready : (sys.moves ms).isReady t task = true)
    (hnew : ((sys.moves ms).turn t task).2.journal = (sys.moves ms).store.journal.report new) :
    ∃ since, sys.accounts (ms ++ [.turn t]) = (sys.accounts ms).set t
      ⟨{ task with stage := ((sys.moves ms).turn t task).1, since },
        sys.heard t ms ++ (sys.moves ms).exchanges task, sys.told t ms ++ new⟩ := by
  obtain ⟨hstore, since, htasks⟩ := exists_step ht hready
  refine ⟨since, List.ext_getElem? fun i => ?_⟩
  have hheard : ∀ i, (sys.moves ms).heardIn i (.turn t) =
      if t = i then (sys.moves ms).exchanges task else [] := by
    intro i
    by_cases hi : t = i
    · subst hi
      simp [heardIn, ht, hready]
    · simp [heardIn, hi]
  have htold : ∀ i, (sys.moves ms).toldIn i (.turn t) = if t = i then new else [] := by
    intro i
    by_cases hi : t = i
    · subst hi
      rw [toldIn, if_pos rfl, if_pos rfl, hstore, hnew, Journal.drop_events_report]
    · rw [toldIn, if_neg hi, if_neg hi]
  rw [getElem?_accounts, moves_concat, move, htasks, heard_concat, told_concat, hheard, htold,
    List.getElem?_set]
  by_cases hi : t = i
  · subst hi
    have hlt : t < (sys.accounts ms).length := by
      rw [accounts, List.length_mapIdx]
      exact (List.getElem?_eq_some_iff.1 ht).1
    simp [hlt]
  · rw [if_neg hi, if_neg hi, if_neg hi, if_neg fun e => hi e.symm, getElem?_accounts,
      List.append_nil, List.append_nil]

end System

lemma flatMap_set_perm {α β : Type} {f : α → List β} {l : List α} {i : Nat} {a b : α}
    {new : List β} (ha : l[i]? = some a) (hb : f b = f a ++ new) :
    ((l.set i b).flatMap f).Perm (l.flatMap f ++ new) := by
  induction l generalizing i with
  | nil => cases ha
  | cons first rest ih =>
    cases i with
    | zero =>
      cases ha
      rw [List.set_cons_zero, List.flatMap_cons, List.flatMap_cons, hb, List.append_assoc,
        List.append_assoc]
      exact List.perm_append_comm.append_left _
    | succ i =>
      rw [List.set_cons_succ, List.flatMap_cons, List.flatMap_cons, List.append_assoc]
      exact (ih ha).append_left _

namespace System

variable {β : Type} [Backend β] {sys : System β}

/-- Whatever tasks take turns, their accounts tell all that happened. -/
theorem Fresh.accounted (h : sys.Fresh) (ms : List (Move β)) :
    Accounted sys.store.journal (sys.moves ms).store.journal (sys.accounts ms) := by
  induction ms using List.reverseRecOn with
  | nil =>
    refine ⟨fun a ha => ?_, [], (sys.store.journal.report_nil).symm, ?_⟩
    · obtain ⟨t, ht⟩ := List.mem_iff_getElem?.1 ha
      rw [getElem?_accounts] at ht
      obtain ⟨task, htask, rfl⟩ := Option.map_eq_some_iff.1 ht
      have hstage := h.tasks task (List.mem_of_getElem? htask)
      cases hjob : task.call.job? with
      | some p => exact .locked hjob (hstage ▸ .waiting)
      | none => exact .free hjob (hstage ▸ .waiting)
    · have hnil : (sys.accounts []).flatMap (·.told) = [] := by
        rw [List.flatMap_eq_nil_iff]
        intro a ha
        obtain ⟨t, ht⟩ := List.mem_iff_getElem?.1 ha
        rw [getElem?_accounts] at ht
        obtain ⟨task, -, rfl⟩ := Option.map_eq_some_iff.1 ht
        rfl
      rw [hnil]
  | append_singleton ms m ih =>
    have hpass : ((sys.moves ms).move m).tasks = (sys.moves ms).tasks →
        ((sys.moves ms).move m).store.journal = (sys.moves ms).store.journal →
        (∀ t, (sys.moves ms).heardIn t m = []) → (∀ t, (sys.moves ms).toldIn t m = []) →
        Accounted sys.store.journal (sys.moves (ms ++ [m])).store.journal
          (sys.accounts (ms ++ [m])) := by
      intro htasks hjournal hheard htold
      rw [accounts_concat_of_pass htasks hheard htold, moves_concat, hjournal]
      exact ih
    cases m with
    | tick d => exact hpass rfl rfl (fun _ => rfl) fun _ => rfl
    | outside change => exact hpass rfl rfl (fun _ => rfl) fun _ => rfl
    | turn t =>
      rcases (sys.moves ms).step_cases t with ⟨hsame, hnot⟩ | ⟨task, ht, hready, hstep⟩
      · refine hpass (congrArg System.tasks hsame) (congrArg (·.store.journal) hsame) ?_ ?_
        · intro i
          by_cases hi : t = i
          · subst hi
            cases ht : (sys.moves ms).tasks[t]? with
            | none => simp [heardIn, ht]
            | some task => simp [heardIn, ht, hnot task ht]
          · rw [heardIn, if_neg hi]
        · intro i
          by_cases hi : t = i
          · subst hi
            rw [toldIn, if_pos rfl, hsame, List.drop_length]
          · rw [toldIn, if_neg hi]
      · obtain ⟨hkept, es, hjournal, hperm⟩ := ih
        have hget : (sys.accounts ms)[t]? = some ⟨task, sys.heard t ms, sys.told t ms⟩ := by
          rw [getElem?_accounts, ht]
          rfl
        have hbefore := hkept _ (List.mem_of_getElem? hget)
        obtain ⟨new, hnew, hafter⟩ := (advance_turn hready).kept hbefore
        obtain ⟨since, haccounts⟩ := accounts_concat_of_turn ht hready hnew
        rw [haccounts, moves_concat]
        refine ⟨fun a ha => ?_, es ++ new, ?_, ?_⟩
        · rcases List.mem_or_eq_of_mem_set ha with ha | rfl
          · exact hkept a ha
          · exact hafter since
        · rw [← Journal.report_report, ← hjournal, ← hnew]
          exact congrArg Store.journal (exists_step ht hready).1
        · exact (hperm.append_right new).trans (flatMap_set_perm hget rfl).symm

end System

end TypedVars
