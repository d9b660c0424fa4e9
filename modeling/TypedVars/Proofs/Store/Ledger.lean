import Mathlib.Data.List.Induction
import Mathlib.Data.List.Nodup
import TypedVars.Proofs.Store.History

/-!
# The ledger of a variable

For each variable a ledger is kept (`System.Ledger`) of the calls to which its lock was granted and
of those that have come to their answers.  The text in the backend is the text after the latter,
made one after another; at most one more call has been granted the lock, and if that one knows a
value, it is the value of the text.  A turn of another call cannot come between, because the lock is
held.

Every move keeps the ledger (`Ledger.move`), if it is not a plain write of the variable and no
change of it from outside: a turn of something else is no entry, and of the turns of a locked call
of the variable the grant is one entry and the answer another.
-/

namespace TypedVars

namespace Stage

/-- Whether a task with this stage has been granted its lock and has no answer yet. -/
def isUnderway : Stage → Bool
  | reading _ | deciding _ => true
  | _ => false

lemma isServed_of_isUnderway {stage : Stage} (h : stage.isUnderway = true) :
    stage.isServed = true := by
  cases stage <;> first | rfl | cases h

end Stage

lemma key_ne_of_mem_services {h : List Deed} {var : VarId} {x : Service}
    (hx : x ∈ services h var) : var.key ≠ "" := by
  obtain ⟨d, -, hd⟩ := List.mem_filterMap.1 hx
  exact Call.key_ne_of_job? (Deed.of_service? hd).1

lemma Store.unused_serial {var : VarId} (hkey : var.key ≠ "") (raw : Option String)
    (xs : List Service) : (serial var raw xs).locks.Unused := by
  induction xs using List.reverseRecOn with
  | nil => exact Locks.unused_empty
  | append_singleton xs x ih =>
    rw [serial_concat]
    exact (locked_alone (s := (serial var raw xs).facing x.fault) hkey ih x.job).unused

namespace System

variable {β : Type} [Backend β] {sys : System β} {var : VarId} {raw : Option String}
  {h : List Deed} {t i : Ticket} {task other : Task} {job : Job} {stage : Stage} {store : Store β}
  {limit : Option Nat}

/-! ## The ledger of a variable -/

/-- Where a locked call of a variable stands, by its stage. -/
def Stands (h : List Deed) (var : VarId) (raw : Option String) (t : Ticket) (job : Job)
    (limit : Option Nat) : Stage → Prop
  | .waiting | .queued _ => t ∉ grants h var
  | .reading _ => grants h var = (services h var).map (·.ticket) ++ [t]
  | .deciding current =>
    grants h var = (services h var).map (·.ticket) ++ [t] ∧ current = valueOf raw
  | .leaving reply => ∃ x ∈ services h var, x.ticket = t ∧ x.job = job ∧ x.reply = reply
  | .answered _ reply =>
    (∃ x ∈ services h var, x.ticket = t ∧ x.job = job ∧ x.reply = reply) ∨
      t ∉ grants h var ∧ ∃ ms, limit = some ms ∧ reply = .error (.lockTimeout var ms)

/-- What is known of a variable after some turns, when its text was `raw` before them. -/
structure Ledger (var : VarId) (raw : Option String) (h : List Deed) (sys : System β) : Prop where
  lined : sys.Lined
  nodup : (grants h var).Nodup
  settled : (∀ (t : Ticket) (task : Task) (job : Job), sys.tasks[t]? = some task →
    task.call.job? = some (var, job) → task.stage.isUnderway = false) →
    grants h var = (services h var).map (·.ticket)
  replay : Store.Replayed var raw (services h var)
  text : Backend.stored (Store.serial var raw (services h var)).backend var =
    Backend.stored sys.store.backend var
  stands : ∀ (t : Ticket) (task : Task) (job : Job), sys.tasks[t]? = some task →
    task.call.job? = some (var, job) →
    Stands h var (Backend.stored sys.store.backend var) t job (sys.limitOf task) task.stage

lemma Fresh.ledger (hfresh : sys.Fresh) (var : VarId) :
    Ledger var (Backend.stored sys.store.backend var) [] sys where
  lined := hfresh.lined
  nodup := List.nodup_nil
  settled _ := rfl
  replay := Store.replayed_nil var _
  text := Store.stored_holding var _
  stands t task job ht _ := by
    rw [hfresh.tasks task (List.mem_of_getElem? ht)]
    exact List.not_mem_nil

omit [Backend β] in
lemma Lined.not_underway (hlined : sys.Lined) (ht : sys.tasks[t]? = some task)
    (hjob : task.call.job? = some (var, job)) (hserved : task.stage.isServed = true)
    {job' : Job} (hi : sys.tasks[i]? = some other) (hjob' : other.call.job? = some (var, job'))
    (hne : i ≠ t) : other.stage.isUnderway = false := by
  cases hunder : other.stage.isUnderway with
  | false => rfl
  | true =>
    exact absurd (hlined.unique_served ht hjob hserved hi hjob'
      (Stage.isServed_of_isUnderway hunder)) hne

/-- A call that is not underway stands where it stood when other calls are granted their locks or
come to their answers. -/
lemma Stands.mono {h' : List Deed} {raw' : Option String}
    (hs : Stands h var raw t job limit stage) (hunder : stage.isUnderway = false)
    (hgrants : t ∉ grants h var → t ∉ grants h' var)
    (hservices : ∀ x ∈ services h var, x ∈ services h' var) :
    Stands h' var raw' t job limit stage := by
  cases stage with
  | waiting => exact hgrants hs
  | queued since => exact hgrants hs
  | reading due => cases hunder
  | deciding current => cases hunder
  | leaving reply =>
    obtain ⟨x, hx, hrest⟩ := hs
    exact ⟨x, hservices x hx, hrest⟩
  | answered time reply =>
    rcases hs with ⟨x, hx, hrest⟩ | ⟨hnot, hrest⟩
    · exact .inl ⟨x, hservices x hx, hrest⟩
    · exact .inr ⟨hgrants hnot, hrest⟩

lemma Stands.congr {h' : List Deed} (hs : Stands h var raw t job limit stage)
    (hgrants : grants h' var = grants h var) (hservices : services h' var = services h var) :
    Stands h' var raw t job limit stage := by
  revert hs
  cases stage <;> simp only [Stands, hgrants, hservices] <;> exact id

/-! ## Turns of other calls -/

lemma Advance.stored_of_other [AtomicBackend β] (hadv : Advance sys t task stage store)
    (hother : ∀ job, task.call.job? ≠ some (var, job)) (hquiet : ¬ task.call.Writes var) :
    Backend.stored store.backend var = Backend.stored sys.store.backend var := by
  cases hadv with
  | ask | look | granted | refused | idle => rfl
  | rush hstage hjob => exact Store.stored_call _ hjob hquiet
  | told hstage hjob => exact Store.stored_call _ hjob hquiet
  | found | failed => rw [(Store.moved_fetch _ _).backend, AtomicBackend.stored_get]
  | @wrote v job current hstage hjob =>
    have hne : var ≠ v := by
      rintro rfl
      exact hother job hjob
    rw [(Store.moved_commit _ _ _ _).backend, Store.stored_written_of_ne hne]
  | @left v job reply =>
    rw [(Store.moved_conclude (sys.store.release v t) v job reply).backend]
    rfl

lemma grants_concat (h : List Deed) (d : Deed) (var : VarId) :
    grants (h ++ [d]) var = grants h var ++ (d.grant? var).toList := by
  cases hd : d.grant? var <;> simp [grants, hd]

lemma services_concat (h : List Deed) (d : Deed) (var : VarId) :
    services (h ++ [d]) var = services h var ++ (d.service? var).toList := by
  cases hd : d.service? var <;> simp [services, hd]

lemma no_entry {d : Deed} (hother : ∀ job, d.call.job? ≠ some (var, job)) :
    grants (h ++ [d]) var = grants h var ∧ services (h ++ [d]) var = services h var := by
  have hgrant : d.grant? var = none := by
    unfold Deed.grant?
    split
    · next v job due hjob _ =>
      rw [if_neg]
      rintro rfl
      exact hother job hjob
    · rfl
  have hservice : d.service? var = none := by
    unfold Deed.service?
    split
    · next v job reply hjob _ =>
      rw [if_neg]
      rintro rfl
      exact hother job hjob
    · rfl
  rw [grants_concat, services_concat, hgrant, hservice]
  exact ⟨List.append_nil _, List.append_nil _⟩

/-- The ledger goes by the entries in the history, the calls of the variable and its text. -/
lemma Ledger.congr {h' : List Deed} {sys' : System β} (hl : Ledger var raw h sys)
    (hgrants : grants h' var = grants h var) (hservices : services h' var = services h var)
    (hlined : sys'.Lined)
    (htasks : ∀ (t : Ticket) (task : Task) (job : Job), task.call.job? = some (var, job) →
      (sys'.tasks[t]? = some task ↔ sys.tasks[t]? = some task))
    (hlimit : sys'.store.limit = sys.store.limit)
    (hstored : Backend.stored sys'.store.backend var = Backend.stored sys.store.backend var) :
    Ledger var raw h' sys' where
  lined := hlined
  nodup := by
    rw [hgrants]
    exact hl.nodup
  settled hno := by
    rw [hgrants, hservices]
    exact hl.settled fun t task job ht hjob => hno t task job ((htasks t task job hjob).2 ht) hjob
  replay := by
    rw [hservices]
    exact hl.replay
  text := by
    rw [hservices, hstored]
    exact hl.text
  stands t task job ht hjob := by
    have hs := hl.stands t task job ((htasks t task job hjob).1 ht) hjob
    have hsame : sys'.limitOf task = sys.limitOf task := by rw [limitOf, limitOf, hlimit]
    rw [hsame, hstored]
    exact hs.congr hgrants hservices

/-! ## Turns of the calls of a variable -/

/-- What is to be shown for a turn of a locked call of the variable: what it adds to the ledger, and
where the call itself stands afterwards. -/
lemma Ledger.enter (hl : Ledger var raw h sys) {d : Deed}
    (ht : sys.tasks[t]? = some task) (hjob : task.call.job? = some (var, job))
    (hadv : Advance sys t task stage store)
    (hnodup : (grants (h ++ [d]) var).Nodup)
    (hsettled : stage.isUnderway = false →
      (∀ i other job', i ≠ t → sys.tasks[i]? = some other → other.call.job? = some (var, job') →
        other.stage.isUnderway = false) →
      grants (h ++ [d]) var = (services (h ++ [d]) var).map (·.ticket))
    (hreplay : ∀ x, d.service? var = some x →
      ((Store.serial var raw (services h var)).serve var x.job x.fault).1 = (x.seen, x.reply))
    (htext : Backend.stored (Store.serial var raw (services (h ++ [d]) var)).backend var =
      Backend.stored store.backend var)
    (hself : Stands (h ++ [d]) var (Backend.stored store.backend var) t job (sys.limitOf task)
      stage)
    (hothers : ∀ i other job', i ≠ t → sys.tasks[i]? = some other →
      other.call.job? = some (var, job') →
      Stands h var (Backend.stored sys.store.backend var) i job' (sys.limitOf other) other.stage →
      Stands (h ++ [d]) var (Backend.stored store.backend var) i job' (sys.limitOf other)
        other.stage) :
    Ledger var raw (h ++ [d]) (sys.enter t task stage store) := by
  obtain ⟨since, htasks⟩ := exists_enter ht stage store
  have hlimit : ∀ other : Task,
      (sys.enter t task stage store).limitOf other = sys.limitOf other := by
    intro other
    rw [limitOf, limitOf, store_enter, hadv.limit]
  refine ⟨hl.lined.advance ht hadv, hnodup, ?_, ?_, htext, ?_⟩
  · intro hno
    refine hsettled ?_ ?_
    · exact hno t { task with stage, since } job (by rw [htasks, if_pos rfl]) hjob
    · intro i other job' hne hi hjob'
      exact hno i other job' (by rw [htasks, if_neg hne, hi]) hjob'
  · rw [services_concat]
    cases hd : d.service? var with
    | none =>
      rw [Option.toList_none, List.append_nil]
      exact hl.replay
    | some x => exact hl.replay.concat (hreplay x hd)
  · intro i other job' hi hjob'
    rw [hlimit]
    rw [htasks] at hi
    by_cases hne : i = t
    · subst hne
      rw [if_pos rfl] at hi
      cases hi
      rw [hjob] at hjob'
      cases hjob'
      exact hself
    · rw [if_neg hne] at hi
      exact hothers i other job' hne hi hjob' (hl.stands i other job' hi hjob')

/-- A turn of a call of the variable that is no entry: the call asks for its lock, gives up, reads
or lets its lock go. -/
lemma Ledger.pass (hl : Ledger var raw h sys) {d : Deed} (ht : sys.tasks[t]? = some task)
    (hjob : task.call.job? = some (var, job)) (hadv : Advance sys t task stage store)
    (hgrant : d.grant? var = none) (hservice : d.service? var = none)
    (hstored : Backend.stored store.backend var = Backend.stored sys.store.backend var)
    (hunder : stage.isUnderway = false → task.stage.isUnderway = false)
    (hself : Stands h var (Backend.stored sys.store.backend var) t job (sys.limitOf task) stage) :
    Ledger var raw (h ++ [d]) (sys.enter t task stage store) := by
  have hgrants : grants (h ++ [d]) var = grants h var := by
    rw [grants_concat, hgrant, Option.toList_none, List.append_nil]
  have hservices : services (h ++ [d]) var = services h var := by
    rw [services_concat, hservice, Option.toList_none, List.append_nil]
  refine hl.enter ht hjob hadv ?_ ?_ ?_ ?_ ?_ ?_
  · rw [hgrants]
    exact hl.nodup
  · intro hstage hothers
    rw [hgrants, hservices]
    apply hl.settled
    intro i other job' hi hjob'
    by_cases hne : i = t
    · subst hne
      rw [ht] at hi
      cases hi
      exact hunder hstage
    · exact hothers i other job' hne hi hjob'
  · intro x hx
    rw [hservice] at hx
    cases hx
  · rw [hservices, hstored]
    exact hl.text
  · rw [hstored]
    exact hself.congr hgrants hservices
  · intro i other job' _ _ _ hs
    rw [hstored]
    exact hs.congr hgrants hservices

/-- The lock is granted to the head of the line, while nobody is underway. -/
lemma Ledger.grant (hl : Ledger var raw h sys) {d : Deed} {since due : Nat}
    (ht : sys.tasks[t]? = some task) (hjob : task.call.job? = some (var, job))
    (hstage : task.stage = .queued since) (hholds : sys.store.locks.holds t = true)
    (hadv : Advance sys t task (.reading due) store)
    (hgrant : d.grant? var = some t) (hservice : d.service? var = none)
    (hstored : Backend.stored store.backend var = Backend.stored sys.store.backend var) :
    Ledger var raw (h ++ [d]) (sys.enter t task (.reading due) store) := by
  have hgrants : grants (h ++ [d]) var = grants h var ++ [t] := by
    rw [grants_concat, hgrant, Option.toList_some]
  have hservices : services (h ++ [d]) var = services h var := by
    rw [services_concat, hservice, Option.toList_none, List.append_nil]
  have hmem := hl.lined.mem_users ht hjob (by rw [hstage]; rfl)
  have hhead := (hl.lined.sound.holds_iff hmem).1 hholds
  have hfree : ∀ (i : Ticket) (other : Task) (job' : Job), sys.tasks[i]? = some other →
      other.call.job? = some (var, job') → other.stage.isUnderway = false := by
    intro i other job' hi hjob'
    cases hunder : other.stage.isUnderway with
    | false => rfl
    | true =>
      have hhead' := hl.lined.head i other var job' hi hjob' (Stage.isServed_of_isUnderway hunder)
      rw [hhead] at hhead'
      cases hhead'
      rw [ht] at hi
      cases hi
      rw [hstage] at hunder
      cases hunder
  have hnew : t ∉ grants h var := by
    have hs := hl.stands t task job ht hjob
    rw [hstage] at hs
    exact hs
  refine hl.enter ht hjob hadv ?_ ?_ ?_ ?_ ?_ ?_
  · rw [hgrants]
    refine List.nodup_append.2 ⟨hl.nodup, List.nodup_singleton t, ?_⟩
    intro a ha b hb
    rw [List.mem_singleton.1 hb]
    rintro rfl
    exact hnew ha
  · intro hstage _
    cases hstage
  · intro x hx
    rw [hservice] at hx
    cases hx
  · rw [hservices, hstored]
    exact hl.text
  · rw [Stands, hgrants, hservices, hl.settled hfree]
  · intro i other job' hne hi hjob' hs
    refine hs.mono (hfree i other job' hi hjob') ?_ ?_
    · intro hnot
      rw [hgrants, List.mem_append, List.mem_singleton]
      exact not_or.2 ⟨hnot, hne⟩
    · intro x hx
      rw [hservices]
      exact hx

/-- A call that is underway is the last to which the lock was granted. -/
lemma Ledger.pending (hl : Ledger var raw h sys) (ht : sys.tasks[t]? = some task)
    (hjob : task.call.job? = some (var, job)) (hunder : task.stage.isUnderway = true) :
    grants h var = (services h var).map (·.ticket) ++ [t] := by
  have hs := hl.stands t task job ht hjob
  revert hunder hs
  cases task.stage with
  | reading due => exact fun _ hs => hs
  | deciding current => exact fun _ hs => hs.1
  | waiting | queued since | leaving reply | answered time reply =>
    exact fun hunder => nomatch hunder

/-- A call that is underway comes to its answer, and the ledger has one more service. -/
lemma Ledger.serve (hl : Ledger var raw h sys) {d : Deed} {x : Service}
    (ht : sys.tasks[t]? = some task) (hjob : task.call.job? = some (var, job))
    (hunder : task.stage.isUnderway = true) (hadv : Advance sys t task (.leaving x.reply) store)
    (hgrant : d.grant? var = none) (hservice : d.service? var = some x)
    (hticket : x.ticket = t) (hxjob : x.job = job)
    (hreplay : ((Store.serial var raw (services h var)).serve var x.job x.fault).1 =
      (x.seen, x.reply))
    (htext : Backend.stored
        ((Store.serial var raw (services h var)).serve var x.job x.fault).2.backend var =
      Backend.stored store.backend var) :
    Ledger var raw (h ++ [d]) (sys.enter t task (.leaving x.reply) store) := by
  have hgrants : grants (h ++ [d]) var = grants h var := by
    rw [grants_concat, hgrant, Option.toList_none, List.append_nil]
  have hservices : services (h ++ [d]) var = services h var ++ [x] := by
    rw [services_concat, hservice, Option.toList_some]
  have hpending := hl.pending ht hjob hunder
  refine hl.enter ht hjob hadv ?_ ?_ ?_ ?_ ?_ ?_
  · rw [hgrants]
    exact hl.nodup
  · intro _ _
    rw [hgrants, hservices, hpending, List.map_append, List.map_singleton, hticket]
  · intro y hy
    rw [hservice] at hy
    cases hy
    exact hreplay
  · rw [hservices, Store.serial_concat]
    exact htext
  · refine ⟨x, ?_, hticket, hxjob, rfl⟩
    rw [hservices]
    exact List.mem_append_right _ (List.mem_singleton_self x)
  · intro i other job' hne hi hjob' hs
    have hserved := Stage.isServed_of_isUnderway hunder
    refine hs.mono (hl.lined.not_underway ht hjob hserved hi hjob' hne) ?_ ?_
    · intro hnot
      rw [hgrants]
      exact hnot
    · intro y hy
      rw [hservices]
      exact List.mem_append_left _ hy

lemma Ledger.found [AtomicBackend β] (hl : Ledger var raw h sys) {due : Nat}
    {current : Option Value} (ht : sys.tasks[t]? = some task)
    (hjob : task.call.job? = some (var, job)) (hstage : task.stage = .reading due)
    (hfetch : (sys.store.fetch var).1 = .ok current) :
    Ledger var raw (h ++ [⟨t, task.call, task.stage, .deciding current, sys.fault? task⟩])
      (sys.enter t task (.deciding current) (sys.store.fetch var).2) := by
  have hs := hl.stands t task job ht hjob
  rw [hstage] at hs
  have hadv : Advance sys t task (.deciding current) (sys.store.fetch var).2 :=
    .found hstage hjob hfetch
  have hsuccess : sys.store.readFailure? var = none := by
    cases hfail : sys.store.readFailure? var with
    | none => rfl
    | some e =>
      rw [Store.fetch_of_failure hfail] at hfetch
      cases hfetch
  have hcurrent : current = valueOf (Backend.stored sys.store.backend var) :=
    Except.ok.inj (hfetch.symm.trans (Store.fetch_of_success hsuccess))
  refine hl.pass ht hjob hadv ?_ ?_ ?_ (fun hunder => nomatch hunder) ⟨hs, hcurrent⟩
  · simp [Deed.grant?]
  · simp [Deed.service?]
  · rw [(Store.moved_fetch _ _).backend, AtomicBackend.stored_get]

lemma Ledger.failed [AtomicBackend β] (hl : Ledger var raw h sys) {due : Nat} {e : StoreError}
    (ht : sys.tasks[t]? = some task) (hjob : task.call.job? = some (var, job))
    (hstage : task.stage = .reading due) (hfetch : (sys.store.fetch var).1 = .error e) :
    Ledger var raw (h ++ [⟨t, task.call, task.stage, .leaving (.error e), sys.fault? task⟩])
      (sys.enter t task (.leaving (.error e)) (sys.store.fetch var).2) := by
  have hadv : Advance sys t task (.leaving (.error e)) (sys.store.fetch var).2 :=
    .failed hstage hjob hfetch
  have hfail := Store.readFailure?_of_error hfetch
  have hkey := Call.key_ne_of_job? hjob
  have hvar : task.call.var? = some var := Call.var?_of_job? hjob
  obtain ⟨hreplay, htext, -⟩ :=
    Store.serve_failed hkey (Store.unused_serial hkey raw (services h var)) job e
  refine hl.serve (x := ⟨t, job, some ⟨.get, e⟩, none, .error e⟩) ht hjob
    (by rw [hstage]; rfl) hadv ?_ ?_ rfl rfl hreplay ?_
  · simp [Deed.grant?]
  · simp [Deed.service?, hjob, fault?, hstage, hvar, hfail, Stage.current?]
  · rw [htext, hl.text, (Store.moved_fetch _ _).backend, AtomicBackend.stored_get]

/-- The call decides by the value of the text that is there, and comes to its answer with its write,
whether that succeeds or fails. -/
lemma Ledger.wrote [AtomicBackend β] (hl : Ledger var raw h sys) {current : Option Value}
    (ht : sys.tasks[t]? = some task) (hjob : task.call.job? = some (var, job))
    (hstage : task.stage = .deciding current) :
    Ledger var raw
      (h ++ [⟨t, task.call, task.stage, .leaving (sys.store.commit var job current).1,
        sys.fault? task⟩])
      (sys.enter t task (.leaving (sys.store.commit var job current).1)
        (sys.store.commit var job current).2) := by
  have hs := hl.stands t task job ht hjob
  rw [hstage] at hs
  obtain ⟨-, hcurrent⟩ := hs
  have hkey := Call.key_ne_of_job? hjob
  have hfound := Store.serve_found hkey (Store.unused_serial hkey raw (services h var)) job
    (sys.store.writeFailure? var (job.decide current).written)
  rw [hl.text, ← hcurrent] at hfound
  obtain ⟨hreplay, htext, -⟩ := hfound
  have hfault : sys.fault? task = (sys.store.writeFailure? var (job.decide current).written).map
      (Fault.ofWrite (job.decide current).written) := by
    simp [fault?, hstage, hjob]
  refine hl.serve (x := ⟨t, job, sys.fault? task, some current,
    (sys.store.commit var job current).1⟩) ht hjob (by rw [hstage]; rfl) (.wrote hstage hjob) ?_ ?_
    rfl rfl ?_ ?_
  · simp [Deed.grant?]
  · simp [Deed.service?, hjob, hstage, Stage.current?]
  · rw [hfault, hreplay, Store.fst_commit]
  · rw [hfault, htext, (Store.moved_commit _ _ _ _).backend, Store.stored_written_self]

/-! ## Every move -/

lemma Ledger.advance [AtomicBackend β] (hl : Ledger var raw h sys)
    (ht : sys.tasks[t]? = some task) (hjob : task.call.job? = some (var, job))
    (hadv : Advance sys t task stage store) :
    Ledger var raw (h ++ [⟨t, task.call, task.stage, stage, sys.fault? task⟩])
      (sys.enter t task stage store) := by
  have hs := hl.stands t task job ht hjob
  have hadv' := hadv
  cases hadv with
  | look _ hnone | rush _ hnone | told _ hnone | idle hnone =>
    rw [hnone] at hjob
    cases hjob
  | ask hstage hjob' =>
    rw [hstage] at hs
    refine hl.pass ht hjob hadv' ?_ ?_ rfl (fun _ => by rw [hstage]; rfl) hs
    · simp [Deed.grant?]
    · simp [Deed.service?]
  | @refused v job' since limit hstage hjob' hholds hlimit =>
    cases hjob.symm.trans hjob'
    rw [hstage] at hs
    refine hl.pass ht hjob hadv' ?_ ?_ rfl (fun _ => by rw [hstage]; rfl)
      (.inr ⟨hs, limit, hlimit, rfl⟩)
    · simp [Deed.grant?]
    · simp [Deed.service?]
  | @left v job' reply hstage hjob' =>
    rw [hstage] at hs
    refine hl.pass ht hjob hadv' ?_ ?_ ?_ (fun _ => by rw [hstage]; rfl) (.inl hs)
    · simp [Deed.grant?]
    · simp [Deed.service?]
    · rw [(Store.moved_conclude (sys.store.release v t) v job' reply).backend]
      rfl
  | granted hstage hjob' hholds =>
    refine hl.grant ht hjob hstage hholds hadv' ?_ ?_ rfl
    · simp [Deed.grant?, hjob]
    · simp [Deed.service?]
  | found hstage hjob' hfetch =>
    cases hjob.symm.trans hjob'
    exact hl.found ht hjob hstage hfetch
  | failed hstage hjob' hfetch =>
    cases hjob.symm.trans hjob'
    exact hl.failed ht hjob hstage hfetch
  | wrote hstage hjob' =>
    cases hjob.symm.trans hjob'
    exact hl.wrote ht hjob hstage

/-- Every move keeps the ledger, if it is not a plain write of the variable and no change of it from
outside. -/
lemma Ledger.move [AtomicBackend β] (hl : Ledger var raw h sys) (m : Move β)
    (hquiet : ∀ task ∈ sys.tasks, ¬ task.call.Writes var)
    (houtside : ∀ change, m = .outside change → ∀ b : β,
      Backend.stored (change b) var = Backend.stored b var) :
    Ledger var raw (h ++ (sys.deed? m).toList) (sys.move m) := by
  rcases sys.move_cases m with ⟨hnone, htasks, hlimit, hbackend⟩ | ⟨t, task, rfl, ht, hready, hdeed,
    hmove⟩
  · rw [hnone, Option.toList_none, List.append_nil]
    refine hl.congr rfl rfl (hl.lined.move m) (fun t task job _ => by rw [htasks]) hlimit ?_
    rcases hbackend with hsame | ⟨change, rfl, hchange⟩
    · rw [hsame]
    · rw [hchange]
      exact houtside change rfl _
  · have hadv := advance_turn hready
    rw [hdeed, Option.toList_some, hmove]
    by_cases hmine : ∃ job, task.call.job? = some (var, job)
    · obtain ⟨job, hjob⟩ := hmine
      exact hl.advance ht hjob hadv
    · have hother : ∀ job, task.call.job? ≠ some (var, job) := fun job hjob => hmine ⟨job, hjob⟩
      obtain ⟨hgrants, hservices⟩ := no_entry (h := h)
        (d := ⟨t, task.call, task.stage, (sys.turn t task).1, sys.fault? task⟩) hother
      obtain ⟨since, htasks⟩ := exists_enter ht (sys.turn t task).1 (sys.turn t task).2
      refine hl.congr hgrants hservices (hl.lined.advance ht hadv) ?_
        hadv.limit (hadv.stored_of_other hother (hquiet task (List.mem_of_getElem? ht)))
      intro i other job hjob
      rw [htasks]
      by_cases hi : i = t
      · rw [if_pos hi, hi, ht]
        constructor
        · rintro heq
          cases heq
          exact absurd hjob (hother job)
        · rintro heq
          cases heq
          exact absurd hjob (hother job)
      · rw [if_neg hi]

theorem Fresh.ledger_moves [AtomicBackend β] (hfresh : sys.Fresh) (ms : List (Move β))
    (hquiet : ∀ task ∈ sys.tasks, ¬ task.call.Writes var)
    (houtside : ∀ change, .outside change ∈ ms → ∀ b : β,
      Backend.stored (change b) var = Backend.stored b var) :
    Ledger var (Backend.stored sys.store.backend var) (sys.history ms) (sys.moves ms) := by
  induction ms using List.reverseRecOn with
  | nil => exact hfresh.ledger var
  | append_singleton ms m ih =>
    have hl := ih fun change hmem => houtside change (List.mem_append_left _ hmem)
    rw [moves_concat, history_concat]
    refine hl.move m ?_ ?_
    · intro task hmem
      obtain ⟨i, hi⟩ := List.mem_iff_getElem?.1 hmem
      obtain ⟨task', hi', hcall, -⟩ := exists_of_moves ms hi
      rw [hcall]
      exact hquiet task' (List.mem_of_getElem? hi')
    · intro change hm
      exact houtside change (by simp [hm])

/-! ## What the ledger says -/

/-- The calls that came to their answers are those to which the lock was granted, but for one that
may be underway. -/
lemma Ledger.settled_or_underway (hl : Ledger var raw h sys) :
    grants h var = (services h var).map (·.ticket) ∨
    ∃ (t : Ticket) (task : Task) (job : Job), sys.tasks[t]? = some task ∧
      task.call.job? = some (var, job) ∧ task.stage.isUnderway = true ∧
      grants h var = (services h var).map (·.ticket) ++ [t] := by
  by_cases hunder : ∃ (t : Ticket) (task : Task) (job : Job), sys.tasks[t]? = some task ∧
      task.call.job? = some (var, job) ∧ task.stage.isUnderway = true
  · obtain ⟨t, task, job, ht, hjob, hunder⟩ := hunder
    refine .inr ⟨t, task, job, ht, hjob, hunder, hl.pending ht hjob hunder⟩
  · refine .inl (hl.settled ?_)
    intro t task job ht hjob
    cases hstage : task.stage.isUnderway with
    | false => rfl
    | true => exact absurd ⟨t, task, job, ht, hjob, hstage⟩ hunder

lemma Ledger.ticket_mem_grants (hl : Ledger var raw h sys) {x : Service}
    (hx : x ∈ services h var) : x.ticket ∈ grants h var := by
  have hmem : x.ticket ∈ (services h var).map (·.ticket) := List.mem_map.2 ⟨x, hx, rfl⟩
  rcases hl.settled_or_underway with hgrants | ⟨t, -, -, -, -, -, hgrants⟩
  · rw [hgrants]
    exact hmem
  · rw [hgrants]
    exact List.mem_append_left _ hmem

lemma Ledger.mem_grants (hl : Ledger var raw h sys) (ht : sys.tasks[t]? = some task)
    (hjob : task.call.job? = some (var, job)) (hserved : task.stage.isServed = true) :
    t ∈ grants h var := by
  have hs := hl.stands t task job ht hjob
  revert hs hserved
  cases task.stage with
  | waiting | queued since | answered time reply => exact fun hserved => nomatch hserved
  | reading due =>
    intro _ hs
    rw [show grants h var = _ from hs]
    exact List.mem_append_right _ (List.mem_singleton_self t)
  | deciding current =>
    intro _ hs
    rw [show grants h var = _ from hs.1]
    exact List.mem_append_right _ (List.mem_singleton_self t)
  | leaving reply =>
    intro _ hs
    obtain ⟨x, hx, rfl, -⟩ := hs
    exact hl.ticket_mem_grants hx

/-- At most one call has been granted the lock and has not come to its answer. -/
lemma Ledger.exists_pending (hl : Ledger var raw h sys) :
    ∃ pending, grants h var = (services h var).map (·.ticket) ++ pending ∧ pending.length ≤ 1 ∧
      ∀ t ∈ pending, ∃ task, sys.tasks[t]? = some task ∧ task.stage.isUnderway = true := by
  rcases hl.settled_or_underway with hgrants | ⟨t, task, job, ht, -, hunder, hgrants⟩
  · refine ⟨[], ?_, Nat.zero_le 1, ?_⟩
    · rw [List.append_nil, hgrants]
    · intro t ht
      cases ht
  · refine ⟨[t], hgrants, Nat.le_refl 1, ?_⟩
    intro i hi
    rw [List.mem_singleton.1 hi]
    exact ⟨task, ht, hunder⟩

end System

end TypedVars
