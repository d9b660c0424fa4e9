import TypedVars.Proofs.Store.Addition
import TypedVars.Proofs.Store.Tally

/-!
# What the counter of resets counts

An increment discards a stored text when it succeeds over a text that has no integer.  The counter
of resets is meant to count these increments, and counts others.  It is counted up with the decision
on a value, which has two consequences: a text that cannot be decoded is taken for nothing by then
and is not counted, and an increment that decides and then fails to write is counted although the
text stays.

`Account.meetsNonInteger` and `Account.meetsUndecodable` tell the two kinds of texts apart, and
together they are the texts without an integer (`Account.meets_iff`).  The counter grows by the
increments that meet the first kind; what it makes of the texts that are discarded is a balance with
a term for each of the two consequences (`Journal.CountsResets`).
-/

namespace TypedVars

lemma lacksInteger_iff {raw : Option String} :
    LacksInteger raw ↔ (valueOf raw).bind Value.integer? = none := by
  refine ⟨LacksInteger.integer?_eq, fun hnone => ?_⟩
  rcases hasInteger_or_lacksInteger raw with ⟨b, hb⟩ | hlacks
  · rw [hb.integer?_eq] at hnone
    cases hnone
  · exact hlacks

namespace Account

variable {a : Account} {var : VarId} {job : Job} {task : Task} {heard : List Exchange}
  {told : List Event}

/-- The text that an increment found, if there was one and it went on to write in its place. -/
def decidedOn (a : Account) : Option String :=
  match a.heard with
  | [⟨.get _, .ok (.text raw)⟩, _] => if a.task.call.isIncrement then raw else none
  | _ => none

/-- An increment that decided on a value without an integer. -/
def meetsNonInteger (a : Account) : Bool := (valueOf a.decidedOn).any (·.integer?.isNone)

/-- An increment that decided on a text that cannot be decoded. -/
def meetsUndecodable (a : Account) : Bool :=
  a.decidedOn.any fun raw => Value.decode raw = .undecodable

/-- An increment that has put its amount in the place of a text without an integer. -/
def discards (a : Account) : Bool := a.incremented && (a.meetsNonInteger || a.meetsUndecodable)

/-- An increment that decided on a value without an integer, and has not succeeded. -/
def spares (a : Account) : Bool := a.meetsNonInteger && !a.incremented

/-- The texts of the two kinds are those that have no integer, but for the empty one, which stands
for nothing. -/
lemma meets_iff (a : Account) : (a.meetsNonInteger || a.meetsUndecodable) = true ↔
    ∃ raw, a.decidedOn = some raw ∧ raw ≠ "" ∧ LacksInteger (some raw) := by
  unfold meetsNonInteger meetsUndecodable
  cases a.decidedOn with
  | none => simp [valueOf]
  | some raw =>
    by_cases hempty : raw = ""
    · subst hempty
      have hvalue : valueOf (some "") = none := rfl
      have hdecode : Value.decode "" = .absent := rfl
      simp [hvalue, hdecode]
    · have hpresent : Value.decode raw ≠ .absent := fun h =>
        hempty (Value.decode_eq_absent_iff.1 h)
      simp only [Option.some.injEq, exists_eq_left', ne_eq, hempty, not_false_eq_true, true_and,
        lacksInteger_iff]
      cases hdecode : Value.decode raw with
      | absent => exact absurd hdecode hpresent
      | undecodable | value v => simp [valueOf, hdecode, Reading.value?]

lemma not_meets_both (a : Account) : (a.meetsNonInteger && a.meetsUndecodable) = false := by
  unfold meetsNonInteger meetsUndecodable
  cases a.decidedOn with
  | none => rfl
  | some raw => cases hdecode : Value.decode raw <;> simp [valueOf, hdecode, Reading.value?]

lemma length_resets (hjob : task.call.job? = some (var, job)) (raw : Option String) (x : Exchange)
    (told : List Event) : (resets var (job.decide (valueOf raw)).reset).length =
      if meetsNonInteger ⟨task, [⟨.get var, .ok (.text raw)⟩, x], told⟩ then 1 else 0 := by
  obtain ⟨-, ⟨amount, hcall, rfl⟩ | ⟨f, hcall, rfl⟩⟩ := Call.job?_cases hjob
  · simp only [meetsNonInteger, decidedOn, hcall, Call.isIncrement, if_true]
    cases valueOf raw with
    | none => rfl
    | some v => cases hint : v.integer? <;> simp [resets, Job.decide, hint]
  · simp only [meetsNonInteger, decidedOn, hcall, Call.isIncrement, Bool.false_eq_true, if_false]
    rfl

lemma meetsNonInteger_singleton (task : Task) (x : Exchange) (told : List Event) :
    meetsNonInteger ⟨task, [x], told⟩ = false := by
  have hnone : decidedOn ⟨task, [x], told⟩ = none := by
    unfold decidedOn
    split
    · next heq => cases heq
    · rfl
  rw [meetsNonInteger, hnone]
  rfl

/-- An account counts a reset when it is of an increment that decided on a value without an
integer. -/
lemma Kept.resets {a : Account} (h : a.Kept) :
    (Counters.of a.told).resets = if a.meetsNonInteger then 1 else 0 := by
  cases h with
  | @locked task var job heard told hjob h =>
    generalize task.stage = stage at h
    cases h with
    | waiting | queued | reading | refused | unread => rfl
    | deciding raw =>
      rw [meetsNonInteger_singleton]
      simp [Counters.of, Counters.count, foldl_count_discards]
    | written raw answer =>
      rw [← length_resets hjob]
      simp [Counters.of, Counters.count, foldl_count_discards, foldl_count_resets]
    | left time h =>
      cases h with
      | unread e => rw [conclusions_error]; rfl
      | written raw answer =>
        rw [← length_resets hjob]
        simp [Counters.of, Counters.count, foldl_count_discards, foldl_count_resets,
          foldl_count_conclusions]
  | @free task heard told hjob h =>
    generalize task.stage = stage at h
    cases h with
    | waiting | reading | refused => rfl
    | failed =>
      rw [meetsNonInteger_singleton]
      rfl
    | answered time answer =>
      rw [meetsNonInteger_singleton, Counters.of, foldl_count_remarks]
      rfl

/-- Of each account, what is counted and what is left out are what is discarded and what is spared.
So it counts what is discarded just when it leaves nothing out and spares nothing. -/
lemma balance (a : Account) :
    ((if a.meetsNonInteger then 1 else 0) + (if a.incremented && a.meetsUndecodable then 1 else 0) =
      (if a.discards then 1 else 0) + if a.spares then 1 else 0) ∧
    (((if a.meetsNonInteger then 1 else 0) = if a.discards then 1 else 0) ↔
      (a.incremented && a.meetsUndecodable) = false ∧ a.spares = false) := by
  have hboth := a.not_meets_both
  unfold discards spares
  generalize a.meetsNonInteger = number, a.meetsUndecodable = text, a.incremented = done at *
  revert number text done
  decide

end Account

lemma countP_add_countP_eq {α : Type} {l : List α} {p q p' q' : α → Bool}
    (h : ∀ a ∈ l, (if p a then 1 else 0) + (if q a then 1 else 0) =
      (if p' a then 1 else 0) + if q' a then 1 else 0) :
    l.countP p + l.countP q = l.countP p' + l.countP q' := by
  induction l with
  | nil => rfl
  | cons a l ih =>
    have ha := h a List.mem_cons_self
    have hl := ih fun b hb => h b (List.mem_cons_of_mem a hb)
    simp only [List.countP_cons]
    omega

/-! ## The counter -/

/-- The counter of resets has grown by the increments that decided on a value without an integer. -/
structure Journal.CountsResets (j j' : Journal) (accounts : List Account) : Prop where
  /-- What an increment discards is a text that has no integer. -/
  discarded : ∀ a ∈ accounts, a.discards = true ↔ a.incremented = true ∧
    ∃ raw, a.decidedOn = some raw ∧ raw ≠ "" ∧ LacksInteger (some raw)
  each : ∀ a ∈ accounts, (Counters.of a.told).resets = if a.meetsNonInteger then 1 else 0
  /-- It counts a discarded text, and nothing else, but for two kinds of increments. -/
  agrees : ∀ a ∈ accounts, (Counters.of a.told).resets = (if a.discards then 1 else 0) ↔
    (a.incremented && a.meetsUndecodable) = false ∧ a.spares = false
  resets : j'.counters.resets = j.counters.resets + accounts.countP (·.meetsNonInteger)
  /-- It misses those that replaced an undecodable text, and has those too that replaced nothing. -/
  balance : j'.counters.resets + accounts.countP (fun a => a.incremented && a.meetsUndecodable) =
    j.counters.resets + accounts.countP (·.discards) + accounts.countP (·.spares)
  /-- Beyond the increments that have succeeded it can only count some that have not. -/
  bounded : j'.counters.resets + j.counters.increments ≤
    j.counters.resets + j'.counters.increments + accounts.countP (·.spares)
  /-- It tells how often stored data was discarded, where all data can be decoded and no write
  fails. -/
  exact : (∀ a ∈ accounts, a.meetsUndecodable = false ∧ a.spares = false) →
    j'.counters.resets = j.counters.resets + accounts.countP (·.discards)

lemma Accounted.countsResets {j j' : Journal} {accounts : List Account}
    (h : Accounted j j' accounts) : j.CountsResets j' accounts := by
  have hresets : j'.counters.resets =
      j.counters.resets + accounts.countP (·.meetsNonInteger) := by
    obtain ⟨es, rfl, hperm⟩ := h.reported
    rw [(j.grown_report es).resets, hperm.countP_eq, countP_flatMap_eq]
    intro a ha
    rw [← (h.kept a ha).resets]
    exact ((Journal.grown_report {} a.told).resets.trans (Nat.zero_add _)).symm
  have hbalance : accounts.countP (·.meetsNonInteger) +
      accounts.countP (fun a => a.incremented && a.meetsUndecodable) =
        accounts.countP (·.discards) + accounts.countP (·.spares) :=
    countP_add_countP_eq fun a _ => a.balance.1
  have hincrements := h.countsAnswers.increments
  have hfewer : accounts.countP (·.discards) ≤ accounts.countP (·.incremented) :=
    List.countP_mono_left fun a _ hdiscards => (Bool.and_eq_true_iff.1 hdiscards).1
  refine ⟨fun a _ => ?_, fun a ha => (h.kept a ha).resets, fun a ha => ?_, hresets, by omega,
    by omega, fun hcalm => ?_⟩
  · rw [Account.discards, Bool.and_eq_true, a.meets_iff]
  · rw [(h.kept a ha).resets]
    exact a.balance.2
  have hmissed : accounts.countP (fun a => a.incremented && a.meetsUndecodable) = 0 :=
    List.countP_eq_zero.2 fun a ha => by simp [(hcalm a ha).1]
  have hspared : accounts.countP (·.spares) = 0 :=
    List.countP_eq_zero.2 fun a ha => by simp [(hcalm a ha).2]
  omega

/-- The counter of resets, over calls one after another on any store, and over calls at the same
time up to any point. -/
theorem Journal.counts_resets {β : Type} [Backend β] :
    (∀ (s : Store β) (cs : List Call),
      (s.accounts cs).map (fun a => (a.task.call, a.task.stage.reply?)) =
          cs.zip ((s.calls cs).1.map some) ∧
        s.journal.CountsResets (s.calls cs).2.journal (s.accounts cs)) ∧
    ∀ sys : System β, sys.Fresh → ∀ ms,
      (sys.accounts ms).map (·.task) = (sys.moves ms).tasks ∧
        sys.store.journal.CountsResets (sys.moves ms).store.journal (sys.accounts ms) :=
  ⟨fun s cs => ⟨s.map_accounts cs, (s.accounted cs).countsResets⟩, fun sys hfresh ms =>
    ⟨sys.map_accounts ms, (hfresh.accounted ms).countsResets⟩⟩

/-- One increment of an undecodable text and one of a text without an integer: both texts are
discarded, and one of them is counted. -/
theorem Journal.counts_resets_busy : busy.Fresh ∧
    (busy.accounts busyMoves).map (fun a => (a.discards, a.meetsUndecodable, a.spares)) =
      [(true, true, false), (false, false, false), (true, false, false), (false, false, false),
        (false, false, false), (false, false, false)] ∧
    (busy.moves busyMoves).store.journal.counters.resets = 1 ∧
    busy.store.journal.CountsResets (busy.moves busyMoves).store.journal
      (busy.accounts busyMoves) :=
  ⟨busy_fresh, by decide +kernel, by decide +kernel,
    (Journal.counts_resets.2 busy busy_fresh busyMoves).2⟩

/-- A store with a text that cannot be decoded. -/
def torn : Store Memory where
  backend.map := RawMap.empty.set ⟨.global, "k"⟩ "q:oops"

/-- A store with a boolean, which refuses to be written to. -/
def readOnly : Store Host where
  backend.map := RawMap.empty.set ⟨.global, "k"⟩ "b:1"
  backend.fault := some ⟨.set, .backend (some "injected x")⟩

/-- An increment that succeeds over a text without an integer need not be counted, and one that fails
may be counted, while the text stays. -/
theorem Journal.resets_inexact :
    (LacksInteger (Backend.stored torn.backend ⟨.global, "k"⟩) ∧
      (torn.increment ⟨.global, "k"⟩ (.int64 5)).1 = .ok (.total 5) ∧
      Backend.stored (torn.increment ⟨.global, "k"⟩ (.int64 5)).2.backend ⟨.global, "k"⟩ =
        some "n:5" ∧
      (torn.increment ⟨.global, "k"⟩ (.int64 5)).2.journal.counters.resets =
        torn.journal.counters.resets) ∧
    ((readOnly.increment ⟨.global, "k"⟩ (.int64 3)).1 =
        .error (.backend (some "injected x")) ∧
      Backend.stored (readOnly.increment ⟨.global, "k"⟩ (.int64 3)).2.backend ⟨.global, "k"⟩ =
        some "b:1" ∧
      (readOnly.increment ⟨.global, "k"⟩ (.int64 3)).2.journal.counters.increments = 0 ∧
      (readOnly.increment ⟨.global, "k"⟩ (.int64 3)).2.journal.counters.resets = 1) := by
  have hraw : Backend.stored torn.backend ⟨.global, "k"⟩ = some "q:oops" := by decide +kernel
  have hlacks : LacksInteger (some "q:oops") := .undecodable (by decide +kernel)
  refine ⟨⟨hraw ▸ hlacks, ?_, ?_, ?_⟩, ?_, ?_, ?_, ?_⟩ <;> decide +kernel

end TypedVars
