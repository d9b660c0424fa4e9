import TypedVars.Proofs.Store.Demand
import TypedVars.Proofs.Store.Refinement

/-!
# Calls that fail

As soon as the backend answers a failure to a call, the call answers the same failure and asks for
nothing more.  So a text is either written as a whole or not touched, and a locked call that cannot
write has only read (`Store.failsAtomically`).

A backend may fail with any failure, also with the one that elsewhere means an undecodable text.
That one says nothing about the text that stands there: a locked call does not take it for an
undecodable text that is to be replaced, and no reader counts it as one.
-/

namespace TypedVars

/-! ## What is counted of locks -/

/-- How many locks were granted, and how many were refused. -/
def Journal.lockCounts (j : Journal) : Nat × Nat := (j.counters.lockWaits, j.counters.lockTimeouts)

namespace Store

variable {β : Type} [Backend β] {s : Store β} {c : Call} {var : VarId} {job : Job}
  {e : StoreError} {bc : BackendCall}

/-! ## What the parts of a call count -/

lemma counters_fetch (s : Store β) (var : VarId) :
    (s.fetch var).2.journal.counters = s.journal.counters := by
  rcases s.journal_fetch_cases var with ⟨e, -, -, hjournal⟩ | ⟨raw, -, -, hjournal⟩
  · rw [hjournal]
  · rw [hjournal]
    exact foldl_count_discards var raw _

lemma counters_commit (s : Store β) (var : VarId) (job : Job) (current : Option Value) :
    (s.commit var job current).2.journal.counters.increments = s.journal.counters.increments ∧
      (s.commit var job current).2.journal.lockCounts = s.journal.lockCounts := by
  rw [journal_commit]
  simp only [Journal.lockCounts, Journal.report, foldl_count_resets, and_self]

omit [Backend β] in
lemma lockCounts_conclude (s : Store β) (var : VarId) (job : Job) (reply : Reply) :
    (s.conclude var job reply).journal.lockCounts = s.journal.lockCounts := by
  unfold conclude
  split <;> rfl

omit [Backend β] in
/-- Nothing is counted as an increment that failed. -/
lemma conclude_error (s : Store β) (var : VarId) (job : Job) (e : StoreError) :
    s.conclude var job (.error e) = s := by
  cases job <;> rfl

lemma increments_remark (c : Call) (j : Journal) (answer : BackendAnswer) :
    (c.remark j answer).counters.increments = j.counters.increments := by
  simp only [Call.remark_eq, Journal.report, foldl_count_remarks]

/-- A locked call counts one lock that was granted to it, and an increment only if it succeeds. -/
lemma counters_locked (hkey : var.key ≠ "") (h : s.locks.Unused) (job : Job) :
    (s.locked var job).2.journal.lockCounts =
        (s.journal.counters.lockWaits + 1, s.journal.counters.lockTimeouts) ∧
      ∀ e, (s.locked var job).1 = .error e →
        (s.locked var job).2.journal.counters.increments = s.journal.counters.increments := by
  have hfetch := counters_fetch ((s.request var soleTicket).granted var) var
  rw [locked_of_unused hkey h]
  rcases hf : ((s.request var soleTicket).granted var).fetch var with ⟨e | current, s'⟩
  · rw [hf] at hfetch
    have hincrements := congrArg Counters.increments hfetch
    refine ⟨?_, fun _ _ => hincrements⟩
    exact congrArg (fun c : Counters => (c.lockWaits, c.lockTimeouts)) hfetch
  · rw [hf] at hfetch
    obtain ⟨hcommit, hcounts⟩ := counters_commit s' var job current
    have hincrements := hcommit.trans (congrArg Counters.increments hfetch)
    refine ⟨?_, ?_⟩
    · refine (lockCounts_conclude _ var job _).trans (hcounts.trans ?_)
      exact congrArg (fun c : Counters => (c.lockWaits, c.lockTimeouts)) hfetch
    · intro e herror
      dsimp only at herror ⊢
      rw [herror, conclude_error]
      exact hincrements

/-! ## One call on its own -/

/-- The failure that the backend answers to the calls on it that a call makes, if it answers any;
the call makes none after it. -/
def fault? (s : Store β) (c : Call) : Option StoreError :=
  match c.job? with
  | some (var, job) =>
    (s.readFailure? var).or ((s.fetch var).1.toOption.bind fun current =>
      (s.fetch var).2.writeFailure? var (job.decide current).written)
  | none => c.demand.toOption.bind fun bc => failure? (Backend.call s.backend bc).1

/-- A call reads a text that cannot be decoded, and answers so. -/
def ReadsUndecodable (s : Store β) (c : Call) (e : StoreError) : Prop :=
  ∃ var raw, c = .get var ∧ Backend.stored s.backend var = some raw ∧
    Value.decode raw = .undecodable ∧ e = .undecodable raw

/-- What a call comes to when it fails, where no other call is under way. -/
structure FailsAtomically (s : Store β) (c : Call) : Prop where
  /-- A failure of the backend is returned unchanged. -/
  returned : ∀ e, s.fault? c = some e → (s.call c).1 = .error e
  /-- Any other failure is the call's own: it is refused before it asks the backend for anything, or
  it reads a text that cannot be decoded. -/
  own : ∀ e, (s.call c).1 = .error e → s.fault? c = none →
    c.demand = .error e ∨ s.ReadsUndecodable c e
  /-- Every text is what it was. -/
  texts : ∀ e, (s.call c).1 = .error e →
    Backend.stored (s.call c).2.backend = Backend.stored s.backend
  /-- No increment is counted. -/
  increments : ∀ e, (s.call c).1 = .error e →
    (s.call c).2.journal.counters.increments = s.journal.counters.increments
  /-- The lock is let go, and its entry is gone. -/
  released : (s.call c).2.locks.isEmpty = true ∧ ∀ t, (s.call c).2.locks.holds t = false
  /-- The next locked call is granted its lock at once, however short a time it would wait. -/
  next : ∀ (c' : Call) (var : VarId) (job : Job) (limit : Option Nat), c'.job? = some (var, job) →
    (({ (s.call c).2 with limit } : Store β).call c').2.journal.lockCounts =
      ((s.call c).2.journal.counters.lockWaits + 1, (s.call c).2.journal.counters.lockTimeouts)
  /-- When the backend refuses the read of a variable, whatever it answers, that is the answer of
  the call, nothing is written in place of the text, and no text is said to be undecodable. -/
  unread : ∀ var e, c.demand = .ok (.get var) → s.readFailure? var = some e →
    (s.call c).1 = .error e ∧ (s.call c).2.backend = (Backend.get var s.backend).2 ∧
      (s.call c).2.journal.decodeFailures = s.journal.decodeFailures

/-- A call without a lock answers the failure of the backend, and reports nothing then. -/
lemma call_of_fault (hjob : c.job? = none) (hfault : s.fault? c = some e) :
    (s.call c).1 = .error e ∧ (s.call c).2.journal = s.journal := by
  rw [fault?, hjob] at hfault
  cases hdemand : c.demand with
  | error e' =>
    rw [hdemand] at hfault
    cases hfault
  | ok bc =>
    rw [hdemand] at hfault
    rw [call_eq_heard hjob hdemand, heard_of_error (eq_error_of_failure? hfault)]
    exact ⟨rfl, rfl⟩

variable [AtomicBackend β]

/-- Where the failure of a call without a lock comes from. -/
lemma cause_of_unlocked (hjob : c.job? = none) (herror : (s.call c).1 = .error e) :
    s.fault? c = some e ∨ c.demand = .error e ∨ s.ReadsUndecodable c e := by
  cases hdemand : c.demand with
  | error e' =>
    rw [call_of_refused hdemand] at herror
    cases herror
    exact .inr (.inl rfl)
  | ok bc =>
    rw [call_eq_heard hjob hdemand] at herror
    rw [fault?, hjob, hdemand]
    cases hanswer : (Backend.call s.backend bc).1 with
    | error e' =>
      rw [heard_of_error hanswer] at herror
      cases herror
      exact .inl (congrArg TypedVars.failure? hanswer)
    | ok answer =>
      rw [heard_of_ok hanswer] at herror
      obtain ⟨var, raw, rfl, rfl, hdecode, rfl⟩ := Call.reply_eq_error herror
      cases Call.eq_of_demand_get hdemand
      have hstored := AtomicBackend.eq_stored_of_text hanswer
      exact .inr (.inr ⟨var, raw, rfl, hstored.symm, hdecode, rfl⟩)

/-- A call without a lock that fails changes no text and counts no increment. -/
lemma untouched_of_error (hjob : c.job? = none) (h : (s.call c).1 = .error e) :
    Backend.stored (s.call c).2.backend = Backend.stored s.backend ∧
      (s.call c).2.journal.counters.increments = s.journal.counters.increments := by
  cases hdemand : c.demand with
  | error e' =>
    rw [call_of_refused hdemand]
    exact ⟨rfl, rfl⟩
  | ok bc =>
    rw [call_eq_heard hjob hdemand] at h ⊢
    cases hanswer : (Backend.call s.backend bc).1 with
    | error e' =>
      rw [heard_of_error hanswer]
      exact ⟨AtomicBackend.stored_call_of_error hanswer, rfl⟩
    | ok answer =>
      rw [heard_of_ok hanswer] at h ⊢
      obtain ⟨var, raw, rfl, rfl, -, -⟩ := Call.reply_eq_error h
      cases Call.eq_of_demand_get hdemand
      exact ⟨AtomicBackend.stored_get var s.backend, increments_remark _ _ _⟩

/-- Where nobody uses a lock, a locked call that fails changes no text. -/
lemma stored_locked_of_error (hkey : var.key ≠ "") (h : s.locks.Unused)
    (herror : (s.locked var job).1 = .error e) :
    Backend.stored (s.locked var job).2.backend = Backend.stored s.backend := by
  have halone := locked_alone hkey h job
  cases hread : s.readFailure? var with
  | some e' => rw [(halone.failed e' hread).2, AtomicBackend.stored_get]
  | none =>
    have hfetch := fetch_of_success hread
    obtain ⟨hreply, hbackend⟩ := halone.found _ hfetch
    have hstored : Backend.stored (s.fetch var).2.backend = Backend.stored s.backend := by
      rw [(moved_fetch s var).backend, AtomicBackend.stored_get]
    have hwrite := writeFailure?_of_error (hreply.symm.trans herror)
    rw [hbackend, stored_written_of_failure hwrite, hstored]

omit [AtomicBackend β] in
/-- A call leaves the locks as it found them, when nobody used one. -/
lemma unused_call (h : s.locks.Unused) (c : Call) : (s.call c).2.locks.Unused := by
  cases hjob : c.job? with
  | none =>
    rw [(sameLocks_call s hjob).1]
    exact h
  | some p =>
    rw [call_of_job? hjob]
    exact (locked_alone (Call.key_ne_of_job? hjob) h p.2).unused

/-- The answer of a locked call, by the failure that the backend answers to it. -/
lemma locked_fault? (hjob : c.job? = some (var, job)) (h : s.locks.Unused) :
    failure? (s.call c).1 = s.fault? c := by
  have halone := locked_alone (Call.key_ne_of_job? hjob) h job
  rw [call_of_job? hjob, fault?, hjob]
  dsimp only
  cases hread : s.readFailure? var with
  | some e =>
    rw [(halone.failed e hread).1]
    rfl
  | none =>
    have hfetch := fetch_of_success hread
    rw [(halone.found _ hfetch).1, Option.none_or, hfetch, Except.toOption, Option.bind_some]
    rw [fst_commit]
    cases (s.fetch var).2.writeFailure? var
        (job.decide (valueOf (Backend.stored s.backend var))).written <;> rfl

lemma returned (h : s.locks.Unused) (hfault : s.fault? c = some e) : (s.call c).1 = .error e := by
  cases hjob : c.job? with
  | none => exact (call_of_fault hjob hfault).1
  | some p =>
    apply eq_error_of_failure?
    rw [locked_fault? hjob h, hfault]

lemma own (h : s.locks.Unused) (herror : (s.call c).1 = .error e) (hfault : s.fault? c = none) :
    c.demand = .error e ∨ s.ReadsUndecodable c e := by
  cases hjob : c.job? with
  | none =>
    rcases cause_of_unlocked hjob herror with hsome | hown
    · rw [hfault] at hsome
      cases hsome
    · exact hown
  | some p =>
    have hfailure := locked_fault? hjob h
    rw [herror, hfault] at hfailure
    cases hfailure

omit [AtomicBackend β] in
lemma unread (h : s.locks.Unused) (hdemand : c.demand = .ok (.get var))
    (hread : s.readFailure? var = some e) :
    (s.call c).1 = .error e ∧ (s.call c).2.backend = (Backend.get var s.backend).2 ∧
      (s.call c).2.journal.decodeFailures = s.journal.decodeFailures := by
  cases hjob : c.job? with
  | some p =>
    obtain ⟨v, job⟩ := p
    cases (Call.demand_of_job? hjob).symm.trans hdemand
    have hkey := Call.key_ne_of_job? hjob
    rw [call_of_job? hjob]
    obtain ⟨hreply, hbackend⟩ := (locked_alone hkey h job).failed e hread
    refine ⟨hreply, hbackend, decodeFailures_locked hkey h ?_ job⟩
    -- there is no text that could not be decoded, since none is read
    intro raw hget
    rw [readFailure?, hget] at hread
    cases hread
  | none =>
    rw [readFailure?_eq] at hread
    rw [call_eq_heard hjob hdemand, heard_of_error (eq_error_of_failure? hread)]
    exact ⟨rfl, rfl, rfl⟩

theorem failsAtomically (h : s.locks.Unused) (c : Call) : s.FailsAtomically c where
  returned _ := returned h
  own _ := own h
  texts e herror := by
    cases hjob : c.job? with
    | none => exact (untouched_of_error hjob herror).1
    | some p =>
      rw [call_of_job? hjob] at herror ⊢
      exact stored_locked_of_error (Call.key_ne_of_job? hjob) h herror
  increments e herror := by
    cases hjob : c.job? with
    | none => exact (untouched_of_error hjob herror).2
    | some p =>
      rw [call_of_job? hjob] at herror ⊢
      exact (counters_locked (Call.key_ne_of_job? hjob) h p.2).2 e herror
  released := (unused_call h c).released
  next c' var job limit hjob := by
    rw [call_of_job? hjob]
    exact (counters_locked (s := { (s.call c).2 with limit }) (Call.key_ne_of_job? hjob)
      (unused_call h c) job).1
  unread _ _ := unread h

end Store

end TypedVars
