import TypedVars.Proofs.Store.Account

/-!
# What the journal tells

The journal has two sides, the counters and the log, and either can be held against what the calls
heard and answered.  Every account is a story (`Account.Kept`), and no event is told outside of the
accounts (`Accounted`); so it is enough to look at one story of each kind.

The log tells what the counters tell, and an increment that succeeds tells it in a fixed order
(`Journal.matches_log`).  And each counter grows by the number of those calls whose answers it is
about (`Journal.matches_answers`), where the calls may be made one after another or take turns, and
fail at any point.
-/

namespace TypedVars

/-- What some events add up to. -/
def Counters.of (es : List Event) : Counters := es.foldl Counters.count {}

variable {var : VarId} {job : Job} {stage : Stage} {c : Call} {heard : List Exchange}
  {told : List Event}

/-! ## Calls without a key -/

/-- Whether a call is one of those that need a lock. -/
def Call.isLocking : Call → Bool
  | increment .. | update .. => true
  | _ => false

lemma Call.demand_of_keyless (hjob : c.job? = none) (hlocking : c.isLocking = true) :
    c.demand = .error .emptyKey := by
  cases c with
  | increment var _ | update var _ =>
    have hkey : var.key = "" := by simpa [job?] using hjob
    simp [demand, isKeyless, var?, hkey]
  | get | set | setJson | unset | isSet | dump | dumpJson => cases hlocking

lemma Call.isLocking_of_job? (hjob : c.job? = some (var, job)) : c.isLocking = true := by
  obtain ⟨-, ⟨amount, rfl, -⟩ | ⟨f, rfl, -⟩⟩ := Call.job?_cases hjob <;> rfl

/-- A call that needs a lock and has no key for one answers so. -/
lemma FreeStory.of_keyless (hjob : c.job? = none) (hlocking : c.isLocking = true)
    (h : FreeStory c stage heard told) {reply : Reply} (hreply : stage.reply? = some reply) :
    reply = .error .emptyKey := by
  have hdemand := Call.demand_of_keyless hjob hlocking
  cases h with
  | waiting | reading => cases hreply
  | refused time h =>
    cases hreply
    cases hdemand.symm.trans h
    rfl
  | failed time e h | answered time answer h => cases hdemand.symm.trans h

/-! ## The events of an increment -/

/-- What an increment tells of the text that it finds, after it has got the lock and before its
total. -/
structure TellsOld (var : VarId) (delta : Int) (raw : Option String) (between : List Event) :
    Prop where
  single : between.length ≤ 1
  events : ∀ e ∈ between, (∃ r, e = .discarded var r) ∨ e = .reset var delta
  discarded_iff : ∀ r, .discarded var r ∈ between ↔
    raw = some r ∧ Value.decode r = .undecodable
  reset_iff : .reset var delta ∈ between ↔ ∃ v, valueOf raw = some v ∧ v.integer? = none

/-- What an account tells that is one of an increment that has succeeded. -/
def Account.TellsTotal (a : Account) : Prop :=
  ∀ var amount time answer, a.task.call = .increment var amount →
    a.task.stage = .answered time (.ok answer) → ∃ raw write between n,
      answer = .total n ∧ a.heard = [⟨.get var, .ok (.text raw)⟩, write] ∧
      a.told = .lockAcquired var :: between ++ [.incremented var amount.delta n] ∧
      TellsOld var amount.delta raw between

lemma tellsOld (var : VarId) (delta : Int) (raw : Option String) :
    TellsOld var delta raw
      (discards var raw ++ resets var ((Job.increment delta).decide (valueOf raw)).reset) := by
  cases raw with
  | none => constructor <;> simp [discards, resets, Job.decide, valueOf]
  | some raw =>
    cases hdecode : Value.decode raw with
    | undecodable =>
      have hnone : valueOf (some raw) = none := by simp [valueOf, hdecode, Reading.value?]
      have hbetween : discards var (some raw) ++
          resets var ((Job.increment delta).decide (valueOf (some raw))).reset =
            [.discarded var raw] := by
        simp [discards, resets, Job.decide, hnone, hdecode]
      rw [hbetween]
      refine ⟨le_rfl, by simp, fun r => ?_, by simp [hnone]⟩
      constructor
      · intro hmem
        cases List.mem_singleton.1 hmem
        exact ⟨rfl, hdecode⟩
      · rintro ⟨⟨⟩, -⟩
        exact List.mem_singleton_self _
    | absent =>
      constructor <;> simp [discards, resets, Job.decide, valueOf, hdecode, Reading.value?]
    | value v =>
      cases hint : v.integer? with
      | none | some n =>
        constructor <;>
          simp [discards, resets, Job.decide, valueOf, hdecode, Reading.value?, hint]

/-- An increment answers a total. -/
lemma Job.exists_answer (delta : Int) (current : Option Value) :
    ∃ n, ((Job.increment delta).decide current).answer = .total n := by
  unfold decide
  dsimp only
  split
  · exact ⟨_, rfl⟩
  · exact ⟨_, rfl⟩

lemma Account.Kept.tellsTotal {a : Account} (h : a.Kept) : a.TellsTotal := by
  intro var amount time answer hcall hstage
  cases h with
  | free hjob h =>
    have hlocking : Call.isLocking (.increment var amount) = true := rfl
    dsimp only at hcall hstage
    rw [hcall] at hjob h
    rw [hstage] at h
    cases h.of_keyless hjob hlocking rfl
  | @locked task var' job heard told hjob h =>
    dsimp only at hcall hstage
    rw [hstage] at h
    rw [hcall] at hjob
    obtain ⟨-, ⟨_, ⟨⟩, rfl⟩ | ⟨_, ⟨⟩, -⟩⟩ := Call.job?_cases hjob
    generalize hreply : (.ok answer : Reply) = reply at h
    cases h with
    | refused => cases hreply
    | left _ h =>
      cases h with
      | unread => cases hreply
      | written raw written =>
        obtain ⟨n, hn⟩ := Job.exists_answer amount.delta (valueOf raw)
        rw [hn] at hreply ⊢
        cases written with
        | error e => cases hreply
        | ok written =>
          cases hreply
          exact ⟨raw, _, _, n, rfl, rfl, rfl, tellsOld var amount.delta raw⟩

/-- The log and the counters tell the same story of some calls. -/
structure Journal.SameStory (j j' : Journal) (accounts : List Account) : Prop where
  /-- The counters have grown by the numbers of the events with their messages, and the events are
  those that the calls tell. -/
  grown : ∃ es, Journal.Grown j j' es ∧ es.Perm (accounts.flatMap (·.told))
  /-- An increment that succeeds tells first of its lock and last of its total. -/
  increments : ∀ a ∈ accounts, a.TellsTotal

lemma Accounted.sameStory {j j' : Journal} {accounts : List Account}
    (h : Accounted j j' accounts) : j.SameStory j' accounts where
  grown := by
    obtain ⟨es, rfl, hperm⟩ := h.reported
    exact ⟨es, j.grown_report es, hperm⟩
  increments a ha := (h.kept a ha).tellsTotal

/-- The log and the counters tell the same story: of calls one after another on any store, and of
calls at the same time, up to any point. -/
theorem Journal.matches_log {β : Type} [Backend β] :
    (∀ (s : Store β) (cs : List Call),
      s.journal.SameStory (s.calls cs).2.journal (s.accounts cs)) ∧
    ∀ sys : System β, sys.Fresh → ∀ ms,
      sys.store.journal.SameStory (sys.moves ms).store.journal (sys.accounts ms) :=
  ⟨fun s cs => (s.accounted cs).sameStory, fun _ hfresh ms => (hfresh.accounted ms).sameStory⟩

/-- A text that cannot be decoded is incremented by two at the same time, and a text without an
integer by another; two readers come upon a text that stays as it is, and the last has no key. -/
def busy : System Memory where
  store.backend.map :=
    ((RawMap.empty.set ⟨.global, "a"⟩ "?").set ⟨.global, "b"⟩ "s:x").set ⟨.global, "c"⟩ "?"
  store.limit := some 0
  tasks := [{ call := .increment ⟨.global, "a"⟩ (.int64 2) },
    { call := .increment ⟨.global, "a"⟩ (.int64 5) },
    { call := .increment ⟨.global, "b"⟩ (.int64 3) }, { call := .get ⟨.global, "c"⟩ },
    { call := .dump .global "" }, { call := .increment ⟨.global, ""⟩ (.int64 1) }]

/-- The tasks take their turns, the first two by turns. -/
def busyMoves : List (Move Memory) :=
  [.turn 0, .turn 1, .turn 0, .turn 1, .turn 0, .turn 0, .turn 0, .turn 2, .turn 2, .turn 2,
    .turn 2, .turn 2, .turn 3, .turn 3, .turn 4, .turn 5]

lemma busy_fresh : busy.Fresh := ⟨⟨rfl, rfl⟩, by simp [busy]⟩

theorem Journal.matches_log_busy : busy.Fresh ∧
    (busy.accounts busyMoves).map (·.told) =
      [[.lockAcquired ⟨.global, "a"⟩, .discarded ⟨.global, "a"⟩ "?",
        .incremented ⟨.global, "a"⟩ 2 2], [.lockTimedOut ⟨.global, "a"⟩ 0],
      [.lockAcquired ⟨.global, "b"⟩, .reset ⟨.global, "b"⟩ 3, .incremented ⟨.global, "b"⟩ 3 3],
      [.undecodable ⟨.global, "c"⟩ "?"], [.skipped ⟨.global, "c"⟩ "?"], []] ∧
    busy.store.journal.SameStory (busy.moves busyMoves).store.journal (busy.accounts busyMoves) :=
  ⟨busy_fresh, by decide +kernel, Journal.matches_log.2 busy busy_fresh busyMoves⟩

/-! ## The answers of calls -/

/-- Whether a call is an increment. -/
def Call.isIncrement : Call → Bool
  | increment .. => true
  | _ => false

/-- How many texts of an answer a reader cannot decode: a `get` reads one text, and the two listings
read those whose keys begin with a text.  Other calls are no readers. -/
def Call.undecodables : Call → BackendAnswer → Nat
  | get _, .text (some raw) => if Value.decode raw = .undecodable then 1 else 0
  | dump _ lead, .listing entries | dumpJson _ lead, .listing entries =>
    entries.countP fun (key, raw) =>
      lead.toList.isPrefixOf key.toList ∧ Value.decode raw = .undecodable
  | _, _ => 0

/-- Whether a task with this stage has yet to get its lock. -/
def Stage.isEarly : Stage → Bool
  | waiting | queued _ => true
  | _ => false

/-- Whether a failure says that a lock was not free in time. -/
def StoreError.isTimeout : StoreError → Bool
  | lockTimeout .. => true
  | _ => false

lemma Call.isIncrement_of_not_locking (h : c.isLocking = false) : c.isIncrement = false := by
  cases c with
  | increment | update => cases h
  | get | set | setJson | unset | isSet | dump | dumpJson => rfl

namespace Account

/-- An increment that answered a value. -/
def incremented (a : Account) : Bool :=
  a.task.call.isIncrement && a.task.stage.reply?.any (·.isOk)

/-- An increment or update that answered that its lock was not free in time. -/
def answersTimeout (a : Account) : Bool :=
  a.task.call.isLocking && a.task.stage.reply?.any fun r => (failure? r).any (·.isTimeout)

/-- A backend may answer that very failure too, and then nobody has waited for a lock. -/
def hearsTimeout (a : Account) : Bool :=
  a.heard.any fun x => (failure? x.answer).any (·.isTimeout)

/-- An increment or update that has waited for its lock as long as it may. -/
def timedOut (a : Account) : Bool := a.answersTimeout && !a.hearsTimeout

/-- An increment or update with a key that is past its wait for the lock, and did not time out. -/
def granted (a : Account) : Bool :=
  a.task.call.job?.isSome && !a.task.stage.isEarly && !a.timedOut

/-- How many undecodable texts are in what a call heard. -/
def undecodables (a : Account) : Nat :=
  (a.heard.map fun x => x.answer.toOption.elim 0 a.task.call.undecodables).sum

/-- What an account adds to the counters is what its call answered. -/
structure Tallies (a : Account) : Prop where
  increments : (Counters.of a.told).increments = if a.incremented then 1 else 0
  lockTimeouts : (Counters.of a.told).lockTimeouts = if a.timedOut then 1 else 0
  lockWaits : (Counters.of a.told).lockWaits = if a.granted then 1 else 0
  decodeErrors : (Counters.of a.told).decodeErrors = a.undecodables

end Account

/-- A locked call concludes when it is an increment that has succeeded. -/
lemma length_conclusions (hjob : c.job? = some (var, job)) (current : Option Value)
    (answer : Except StoreError BackendAnswer) :
    (conclusions var job (answer.map fun _ => (job.decide current).answer)).length =
      if c.isIncrement && answer.isOk then 1 else 0 := by
  cases answer with
  | error e => simp [Except.map, conclusions_error, Except.isOk, Except.toBool]
  | ok answer =>
    obtain ⟨-, ⟨amount, rfl, rfl⟩ | ⟨f, rfl, rfl⟩⟩ := Call.job?_cases hjob
    · obtain ⟨n, hn⟩ := Job.exists_answer amount.delta current
      rw [Except.map, hn]
      rfl
    · rfl

lemma length_remarks (c : Call) (answer : BackendAnswer) :
    (c.remarks answer).length = c.undecodables answer := by
  cases c with
  | get var =>
    cases answer with
    | text raw =>
      cases raw with
      | none => rfl
      | some raw =>
        simp only [Call.remarks, Call.undecodables]
        cases Value.decode raw <;> rfl
    | done | listing entries => rfl
  | dump scope lead | dumpJson scope lead =>
    cases answer with
    | listing entries =>
      simp only [Call.remarks, Call.undecodables, length_skips, Call.chosen, List.countP_filter]
      refine List.countP_congr fun e _ => ?_
      simp [and_comm]
    | done | text raw => rfl
  | set | setJson | unset | isSet | increment | update => rfl

namespace Account

variable {task : Task} {reply : Reply} {time : Nat}

/-- Calls that need a lock are no readers. -/
lemma undecodables_of_locking (h : task.call.isLocking = true) (heard : List Exchange)
    (told : List Event) : undecodables ⟨task, heard, told⟩ = 0 := by
  have hzero : task.call.undecodables = fun _ => 0 := by
    cases hcall : task.call with
    | increment | update => rfl
    | get | set | setJson | unset | isSet | dump | dumpJson =>
      rw [hcall] at h
      cases h
  refine List.sum_eq_zero fun n hn => ?_
  obtain ⟨x, -, rfl⟩ := List.mem_map.1 hn
  dsimp only
  rw [hzero]
  cases x.answer <;> rfl

/-- Who has not answered did not wait for too long. -/
lemma timedOut_of_open (task : Task) (h : task.stage.reply? = none) (heard : List Exchange)
    (told : List Event) : timedOut ⟨task, heard, told⟩ = false := by
  simp [timedOut, answersTimeout, h]

/-- Who answers the failure of the backend did not wait for too long. -/
lemma timedOut_of_heard (task : Task) {x : Exchange} (hstage : task.stage.reply? = some reply)
    (hmem : x ∈ heard) (hx : failure? x.answer = failure? reply) (told : List Event) :
    timedOut ⟨task, heard, told⟩ = false := by
  cases h : (failure? reply).any (·.isTimeout) with
  | false => simp [timedOut, answersTimeout, hstage, h]
  | true =>
    have hhears : hearsTimeout ⟨task, heard, told⟩ = true :=
      List.any_eq_true.2 ⟨x, hmem, by rw [hx, h]⟩
    simp [timedOut, hhears]

/-- The tally of a locked call. -/
lemma tallies_of_locked (hjob : task.call.job? = some (var, job))
    (h : LockedStory var job task.stage heard told) : Tallies ⟨task, heard, told⟩ := by
  have hlocking := Call.isLocking_of_job? hjob
  have hund := undecodables_of_locking hlocking
  generalize hstage : task.stage = stage at h
  cases h with
  | waiting | queued | reading | deciding | unread | written =>
    have hopen := timedOut_of_open task (by rw [hstage]; rfl)
    constructor <;> simp [incremented, granted, hopen, hstage, hund, hjob, Stage.reply?,
      Stage.isEarly, Counters.of, Counters.count, foldl_count_discards, foldl_count_resets]
  | refused time limit =>
    have htimeout : timedOut ⟨task, [], [.lockTimedOut var limit]⟩ = true := by
      simp [timedOut, answersTimeout, hearsTimeout, hlocking, hstage, Stage.reply?, failure?,
        StoreError.isTimeout]
    constructor <;> simp [incremented, granted, htimeout, hstage, hund, Stage.reply?,
      Counters.of, Counters.count, Except.isOk, Except.toBool]
  | left time h =>
    cases h with
    | unread e =>
      have hheard := timedOut_of_heard task (by rw [hstage]; rfl)
        (List.mem_singleton_self (⟨.get var, .error e⟩ : Exchange)) rfl
      constructor <;> simp [incremented, granted, hheard, hstage, hund, hjob, conclusions_error,
        Stage.reply?, Stage.isEarly, Counters.of, Counters.count, Except.isOk, Except.toBool]
    | written raw answer =>
      have hlast : (⟨.ofWrite var (job.decide (valueOf raw)).written, answer⟩ : Exchange) ∈
          [⟨.get var, .ok (.text raw)⟩,
            ⟨.ofWrite var (job.decide (valueOf raw)).written, answer⟩] :=
        List.mem_cons_of_mem _ (List.mem_singleton_self _)
      have hheard := timedOut_of_heard task (by rw [hstage]; rfl) hlast
        (failure?_map _ _).symm
      have hconclusions := length_conclusions hjob (valueOf raw) answer
      have hok : (answer.map fun _ => (job.decide (valueOf raw)).answer).isOk = answer.isOk := by
        cases answer <;> rfl
      constructor <;> simp [incremented, granted, hheard, hstage, hund, hjob, hconclusions, hok,
        Stage.reply?, Stage.isEarly, Counters.of, Counters.count, foldl_count_discards,
        foldl_count_resets, foldl_count_conclusions]

/-- The tally of a call without a lock: only its remarks are counted. -/
lemma tallies_of_free (hjob : task.call.job? = none)
    (h : FreeStory task.call task.stage heard told) : Tallies ⟨task, heard, told⟩ := by
  obtain ⟨hincremented, htimedOut⟩ : incremented ⟨task, heard, told⟩ = false ∧
      timedOut ⟨task, heard, told⟩ = false := by
    cases hlocking : task.call.isLocking with
    | true =>
      cases hstage : task.stage.reply? with
      | none => simp [incremented, timedOut, answersTimeout, hstage]
      | some reply =>
        cases h.of_keyless hjob hlocking hstage
        simp [incremented, timedOut, answersTimeout, hstage, Except.isOk, Except.toBool, failure?,
          StoreError.isTimeout]
    | false =>
      have hincrement := Call.isIncrement_of_not_locking hlocking
      simp [incremented, timedOut, answersTimeout, hlocking, hincrement]
  have hgranted : granted ⟨task, heard, told⟩ = false := by simp [granted, hjob]
  obtain ⟨n, hcounters, hund⟩ : ∃ n, Counters.of told = { decodeErrors := n } ∧
      undecodables ⟨task, heard, told⟩ = n := by
    generalize task.stage = stage at h
    cases h with
    | waiting | reading | refused | failed => exact ⟨0, rfl, rfl⟩
    | answered time answer =>
      refine ⟨(task.call.remarks answer).length, ?_, ?_⟩
      · rw [Counters.of, foldl_count_remarks, Nat.zero_add]
      · rw [length_remarks]
        rfl
  constructor <;> simp [hgranted, hund, hincremented, htimedOut, hcounters]

lemma Kept.tallies {a : Account} (h : a.Kept) : a.Tallies := by
  cases h with
  | locked hjob h => exact tallies_of_locked hjob h
  | free hjob h => exact tallies_of_free hjob h

end Account

/-- A list that is put together from others has as many hits as these have, where each has one or
none. -/
lemma countP_flatMap_eq {α β : Type} {l : List α} {f : α → List β} {p : β → Bool} {q : α → Bool}
    (h : ∀ a ∈ l, (f a).countP p = if q a then 1 else 0) : (l.flatMap f).countP p = l.countP q := by
  induction l with
  | nil => rfl
  | cons a l ih =>
    rw [List.flatMap_cons, List.countP_append, h a List.mem_cons_self,
      ih fun b hb => h b (List.mem_cons_of_mem a hb), List.countP_cons, Nat.add_comm]

/-- The counters have grown by what some calls answered. -/
structure Journal.CountsAnswers (j j' : Journal) (accounts : List Account) : Prop where
  increments : j'.counters.increments =
    j.counters.increments + accounts.countP (·.incremented)
  lockTimeouts : j'.counters.lockTimeouts =
    j.counters.lockTimeouts + accounts.countP (·.timedOut)
  lockWaits : j'.counters.lockWaits = j.counters.lockWaits + accounts.countP (·.granted)
  decodeErrors : j'.counters.decodeErrors =
    j.counters.decodeErrors + (accounts.map (·.undecodables)).sum
  /-- Where the backend does not speak of locks, to answer that a lock was not free in time is to
  have waited for it. -/
  answered : (∀ a ∈ accounts, a.hearsTimeout = false) →
    accounts.countP (·.timedOut) = accounts.countP (·.answersTimeout)

lemma Accounted.countsAnswers {j j' : Journal} {accounts : List Account}
    (h : Accounted j j' accounts) : j.CountsAnswers j' accounts := by
  obtain ⟨es, rfl, hperm⟩ := h.reported
  have hgrown := j.grown_report es
  have hof := fun es => Journal.grown_report {} es
  have htally := fun a ha => (h.kept a ha).tallies
  constructor
  · rw [hgrown.increments, hperm.countP_eq, countP_flatMap_eq]
    intro a ha
    rw [← (htally a ha).increments]
    exact ((hof a.told).increments.trans (Nat.zero_add _)).symm
  · rw [hgrown.lockTimeouts, hperm.countP_eq, countP_flatMap_eq]
    intro a ha
    rw [← (htally a ha).lockTimeouts]
    exact ((hof a.told).lockTimeouts.trans (Nat.zero_add _)).symm
  · rw [hgrown.lockWaits, hperm.countP_eq, countP_flatMap_eq]
    intro a ha
    rw [← (htally a ha).lockWaits]
    exact ((hof a.told).lockWaits.trans (Nat.zero_add _)).symm
  · rw [hgrown.decodeErrors, hperm.countP_eq, List.countP_flatMap]
    congr 2
    refine List.map_congr_left fun a ha => ?_
    rw [← (htally a ha).decodeErrors]
    exact ((hof a.told).decodeErrors.trans (Nat.zero_add _)).symm
  · intro hnone
    refine List.countP_congr fun a ha => ?_
    rw [Account.timedOut, hnone a ha, Bool.not_false, Bool.and_true]

/-- The counters tell what the answers tell: of calls one after another on any store, and of calls
at the same time, up to any point. -/
theorem Journal.matches_answers {β : Type} [Backend β] :
    (∀ (s : Store β) (cs : List Call),
      (s.accounts cs).map (fun a => (a.task.call, a.task.stage.reply?)) =
          cs.zip ((s.calls cs).1.map some) ∧
        s.journal.CountsAnswers (s.calls cs).2.journal (s.accounts cs)) ∧
    ∀ sys : System β, sys.Fresh → ∀ ms,
      (sys.accounts ms).map (·.task) = (sys.moves ms).tasks ∧
        sys.store.journal.CountsAnswers (sys.moves ms).store.journal (sys.accounts ms) :=
  ⟨fun s cs => ⟨s.map_accounts cs, (s.accounted cs).countsAnswers⟩, fun sys hfresh ms =>
    ⟨sys.map_accounts ms, (hfresh.accounted ms).countsAnswers⟩⟩

theorem Journal.matches_answers_busy : busy.Fresh ∧
    (busy.moves busyMoves).store.journal.counters =
      { increments := 2, resets := 1, lockTimeouts := 1, decodeErrors := 2, lockWaits := 2 } ∧
    (∀ a ∈ busy.accounts busyMoves, a.hearsTimeout = false) ∧
    (busy.accounts busyMoves).map (·.task) = (busy.moves busyMoves).tasks ∧
    busy.store.journal.CountsAnswers (busy.moves busyMoves).store.journal
      (busy.accounts busyMoves) :=
  ⟨busy_fresh, by decide +kernel, by decide +kernel,
    Journal.matches_answers.2 busy busy_fresh busyMoves⟩

end TypedVars
