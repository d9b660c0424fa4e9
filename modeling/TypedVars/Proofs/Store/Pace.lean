import TypedVars.Proofs.Lock.Separation
import TypedVars.Proofs.Store.Completion
import TypedVars.Proofs.Store.Separation

/-!
# Variables do not get in each other's way

When the turns are taken as they come, the times at which a task takes its turns depend on what the
scheduler finds to do.  The tasks on one variable keep their *pace* all the same
(`System.Paced`): whatever tasks on other variables do in between, the next turn of such a task is
at the time at which it would be without them.  For a turn of another task is only taken when no
task on the variable could take its own before, and it takes no time.

So a run comes to the same for the tasks on a variable, at the same times, as the run without the
others (`Mirrors.runFor`).  Together with what holds of every interleaving, and of the locks alone,
this is the independence of the variables (`variables_apart`).
-/

namespace TypedVars

namespace Turn

/-- A turn under another ticket. -/
def renamed (turn : Turn) (f : Ticket → Ticket) : Turn := { turn with ticket := f turn.ticket }

variable {a b : Turn}

lemma Precedes.time_le (h : a.Precedes b) : a.time ≤ b.time := by
  rcases h with hlt | ⟨heq, -⟩
  · exact Nat.le_of_lt hlt
  · exact Nat.le_of_eq heq

/-- The order of turns is the same under tickets in the same order. -/
lemma Precedes.renamed {f : Ticket → Ticket} (h : a.Precedes b) (hf : ∀ i j, i ≤ j → f i ≤ f j) :
    (a.renamed f).Precedes (b.renamed f) := by
  rcases h with hlt | ⟨htime, hlt | ⟨hsince, hle⟩⟩
  · exact .inl hlt
  · exact .inr ⟨htime, .inl hlt⟩
  · exact .inr ⟨htime, .inr ⟨hsince, hf _ _ hle⟩⟩

end Turn

namespace System

variable {β : Type} {sys sys' sole : System β} {t : Ticket} {task : Task} {turn : Turn}
  {var : VarId}

/-! ## Times of turns -/

/-- While time passes and no turn that a task could take is missed, the next one that it can take
stays the same. -/
lemma candidate?_of_le (hlimit : sys'.store.limit = sys.store.limit)
    (hholds : sys'.store.locks.holds t = sys.store.locks.holds t) (hnow : sys.now ≤ sys'.now)
    (hle : ∀ turn, sys.candidate? t task = some turn → sys'.now ≤ turn.time) :
    sys'.candidate? t task = sys.candidate? t task := by
  unfold candidate? readyAt? limitOf at *
  rw [hlimit, hholds]
  -- the turn is at the time at which the task is ready, or now
  have hmax : ∀ time, sys'.now ≤ max sys.now time → max sys'.now time = max sys.now time := by
    intro time htime
    omega
  cases hstage : task.stage with
  | waiting | reading due =>
    simp only [hstage, Option.map_some, Option.some.injEq, forall_eq'] at hle ⊢
    rw [hmax _ hle]
  | queued since =>
    simp only [hstage] at hle ⊢
    split
    · next hheld =>
      simp only [hheld, if_true, Option.map_some, Option.some.injEq, forall_eq'] at hle
      rw [Nat.max_self] at hle
      rw [Nat.le_antisymm hle hnow]
    · next hheld =>
      rw [if_neg hheld] at hle
      cases hwait : task.limit.getD sys.store.limit with
      | none => rfl
      | some limit =>
        simp only [hwait, Option.map_some, Option.some.injEq, forall_eq'] at hle ⊢
        rw [hmax _ hle]
  | deciding current | leaving reply =>
    simp only [hstage, Option.map_some, Option.some.injEq, forall_eq', Nat.max_self] at hle ⊢
    rw [Nat.le_antisymm hle hnow]
  | answered time reply => rfl

/-! ## The pace of the tasks on a variable -/

variable [Backend β]

lemma now_take (sys : System β) (turn : Turn) : (sys.take turn).now = turn.time :=
  (clock_step _ _).1

/-- Every task on the variable can take its next turn when it could do so in the mirror. -/
def Paced (var : VarId) (sys sole : System β) : Prop :=
  ∀ t task, sys.tasks[t]? = some task → task.call.isOn var = true →
    sole.candidate? (sys.retell var t) task =
      (sys.candidate? t task).map (·.renamed (sys.retell var))

namespace Mirrors

variable (h : sys.Mirrors var sole)

include h

lemma paced (hnow : sole.now = sys.now) : Paced var sys sole := by
  intro t task ht hon
  rw [candidate?, candidate?, readyAt?_congr hnow h.limit (h.holds ht hon), hnow, Option.map_map]
  rfl

/-- A turn of another task that comes first is in nobody's way. -/
lemma paced_pass [SeparateBackend β] (hp : Paced var sys sole) (hnext : sys.next? = some turn)
    (ht : sys.tasks[turn.ticket]? = some task) (hoff : task.call.isOn var = false) :
    Mirrors var (sys.take turn) sole ∧ Paced var (sys.take turn) sole := by
  obtain ⟨⟨task', ht', hturn⟩, hleast⟩ := next?_eq_some_iff.1 hnext
  cases ht.symm.trans ht'
  obtain ⟨hle, hready⟩ := isReady_of_candidate hturn
  have hmirrors : Mirrors var (sys.take turn) sole := (h.clock turn.time sole.now).skip ht hoff
  have hretell : (sys.take turn).retell var = sys.retell var := by
    funext i
    exact congrArg (List.countPBefore _ · i) (calls_move _ (.turn turn.ticket))
  refine ⟨hmirrors, ?_⟩
  intro j other hj hon
  -- a task on the variable was not the one that took its turn
  have hwas : sys.tasks[j]? = some other := by
    obtain ⟨-, since, htasks⟩ := exists_step (by exact ht) hready
    rw [take, htasks] at hj
    split at hj
    · cases hj
      rw [hoff] at hon
      cases hon
    · exact hj
  have hsame : (sys.take turn).candidate? j other = sys.candidate? j other := by
    apply candidate?_of_le (hmirrors.limit.symm.trans h.limit)
    · rw [← hmirrors.holds hj hon, hretell, h.holds hwas hon]
    · rw [now_take]
      exact hle
    · intro turn' hturn'
      rw [now_take]
      exact (hleast j other turn' hwas hturn').time_le
  rw [hretell, hsame]
  exact hp j other hwas hon

/-- A turn of a task on the variable brings both clocks to the same time. -/
lemma paced_turn (ht : sys.tasks[turn.ticket]? = some task) (hon : task.call.isOn var = true) :
    Mirrors var (sys.take turn) (sole.take (turn.renamed (sys.retell var))) ∧
      Paced var (sys.take turn) (sole.take (turn.renamed (sys.retell var))) := by
  have hmirrors : Mirrors var (sys.take turn) (sole.take (turn.renamed (sys.retell var))) :=
    (h.clock turn.time turn.time).turn rfl ht hon
  refine ⟨hmirrors, hmirrors.paced ?_⟩
  rw [now_take, now_take]
  rfl

/-- A turn of a task on the variable that comes first comes first in the mirror. -/
lemma next? (hp : Paced var sys sole) (hnext : sys.next? = some turn)
    (ht : sys.tasks[turn.ticket]? = some task) (hon : task.call.isOn var = true) :
    sole.next? = some (turn.renamed (sys.retell var)) := by
  obtain ⟨⟨task', ht', hturn⟩, hleast⟩ := next?_eq_some_iff.1 hnext
  cases ht.symm.trans ht'
  apply next?_eq_some_iff.2
  refine ⟨⟨task, h.retold ht hon, ?_⟩, ?_⟩
  · exact (hp _ task ht hon).trans (by rw [hturn]; rfl)
  · intro k other other' hk hother
    rw [h.tasks] at hk
    obtain ⟨j, hj, honj, hplace⟩ := exists_kept hk
    rw [← retell_eq] at hplace
    rw [← hplace, hp j other hj honj] at hother
    obtain ⟨turn', hturn', rfl⟩ := Option.map_eq_some_iff.1 hother
    exact (hleast j other turn' hj hturn').renamed fun i i' hi => List.countPBefore_mono hi

lemma done (hdone : sys.Done) : sole.Done := by
  intro task hmem
  rw [h.tasks] at hmem
  exact hdone task (List.mem_of_mem_filter hmem)

end Mirrors

lemma runFor_of_done (hdone : sys.Done) (n : Nat) : sys.runFor n = sys := by
  cases n with
  | zero => rfl
  | succ n =>
    rw [runFor_succ]
    cases hnext : sys.next? with
    | none => rfl
    | some turn =>
      obtain ⟨⟨task, ht, hturn⟩, -⟩ := next?_eq_some_iff.1 hnext
      have hanswered := hdone task (List.mem_of_getElem? ht)
      rw [not_answered_of_isReady (isReady_of_candidate hturn).2] at hanswered
      cases hanswered

variable [SeparateBackend β]

/-- A run comes to the same for the tasks on the variable as a run of the mirror. -/
theorem Mirrors.runFor (n m : Nat) (h : sys.Mirrors var sole) (hp : Paced var sys sole)
    (hs : sys.Staged) (hs' : sole.Staged) (hn : sys.rank ≤ n) (hm : sole.rank ≤ m) :
    Mirrors var (sys.runFor n) (sole.runFor m) := by
  induction n generalizing sys sole m with
  | zero =>
    have hdone := done_of_rank_eq_zero (Nat.le_zero.1 hn)
    rw [runFor_of_done (h.done hdone)]
    exact h
  | succ n ih =>
    rw [runFor_succ]
    cases hnext : sys.next? with
    | none =>
      have hdone : sys.Done := by
        by_contra hopen
        obtain ⟨turn, hturn⟩ := exists_next h.lined hs hopen
        rw [hnext] at hturn
        cases hturn
      rw [runFor_of_done (h.done hdone)]
      exact h
    | some turn =>
      obtain ⟨⟨task, ht, hturn⟩, -⟩ := next?_eq_some_iff.1 hnext
      have hlt := hs.rank_take ht hturn
      cases hon : task.call.isOn var with
      | false =>
        obtain ⟨hmirrors, hpaced⟩ := h.paced_pass hp hnext ht hon
        exact ih m hmirrors hpaced (hs.take turn) hs' (by omega) hm
      | true =>
        have hnext' := h.next? hp hnext ht hon
        obtain ⟨⟨task', ht', hturn'⟩, -⟩ := next?_eq_some_iff.1 hnext'
        have hlt' := hs'.rank_take ht' hturn'
        obtain ⟨hmirrors, hpaced⟩ := h.paced_turn ht hon
        cases m with
        | zero => omega
        | succ m =>
          rw [runFor_succ, hnext']
          exact ih m hmirrors hpaced (hs.take turn) (hs'.take _) (by omega) (by omega)

/-- The tasks on a variable come to the same in two systems, and so does its text. -/
structure SameOn (var : VarId) (sys sole : System β) : Prop where
  tasks : sole.tasks = sys.tasks.filter (·.call.isOn var)
  text : Backend.stored sole.store.backend var = Backend.stored sys.store.backend var

omit [SeparateBackend β] in
lemma Mirrors.sameOn (h : sys.Mirrors var sole) : SameOn var sys sole :=
  ⟨h.tasks, h.backend.stored.symm⟩

lemma Fresh.mirrors_run (h : sys.Fresh) (var : VarId) : Mirrors var sys.run (sys.only var).run := by
  have hmirrors := h.mirrors var
  have hstaged : (sys.only var).Staged := fun task hmem =>
    h.staged task (List.mem_of_mem_filter hmem)
  exact hmirrors.runFor _ _ (hmirrors.paced rfl) h.staged hstaged (Nat.le_refl _) (Nat.le_refl _)

end System

/-- How little a variable has to do with the others: what is deleted of them is not missed. -/
structure Apart (β : Type) [Backend β] (var : VarId) : Prop where
  /-- At every time the acquisitions of the variable, with all that has become of them, are those of
  the steps from which the steps on other variables have been deleted. -/
  acquisitions : ∀ steps later : List LockStep,
    (Timeline.after (LockStep.only var [] steps)).now = (Timeline.after steps).now ∧
      (Timeline.after (LockStep.only var [] steps)).acquisitions =
        (Timeline.after steps).acquisitions.filter (·.var = var) ∧
      ∃ rest, LockStep.only var [] (steps ++ later) = LockStep.only var [] steps ++ rest
  /-- Whoever asks for the variable first holds it at once, whatever was done with others. -/
  unblocked : ∀ (steps : List LockStep) (limit : Option Nat),
    (∀ s ∈ steps, s.asked? ≠ some var) →
      (Timeline.after (steps ++ [.acquire var limit])).acquisitions =
        (Timeline.after steps).acquisitions ++ [⟨var, (Timeline.after steps).now, limit, .held⟩]
  /-- In every interleaving the tasks on the variable have come as far, and answered the same at the
  same times, as in the one from which the other tasks, their turns, and what happens outside to
  other variables have been deleted; and the text of the variable is the same. -/
  moves : ∀ sys : System β, sys.Fresh → ∀ ms : List (Move β),
    (∀ change, .outside change ∈ ms → ∀ b, Backend.Alike var b (change b)) →
      System.SameOn var (sys.moves ms) ((sys.only var).moves (Move.only var sys.calls ms))
  /-- So it is when the turns are taken as they come. -/
  run : ∀ sys : System β, sys.Fresh → System.SameOn var sys.run (sys.only var).run
  /-- Tasks on other variables leave the text of the variable as it was. -/
  unwritten : ∀ sys : System β, sys.Fresh → (∀ task ∈ sys.tasks, task.call.var? ≠ some var) →
    Backend.stored sys.run.store.backend var = Backend.stored sys.store.backend var

lemma Timeline.unblocked {steps : List LockStep} {var : VarId}
    (h : ∀ s ∈ steps, s.asked? ≠ some var) (limit : Option Nat) :
    (after (steps ++ [.acquire var limit])).acquisitions =
      (after steps).acquisitions ++ [⟨var, (after steps).now, limit, .held⟩] := by
  rw [after_concat]
  refine acquisitions_acquire_of_free steps var limit fun a ha hvar => ?_
  obtain ⟨i, hi⟩ := List.mem_iff_getElem?.1 ha
  obtain ⟨earlier, later, rfl, -⟩ := exists_asked steps hi
  exact absurd (congrArg some hvar) (h (.acquire a.var a.limit) (by simp))

/-- Whatever the variable is, the others do not get in its way, be it that they differ from it in
the scope alone, in the key alone, or only in where the one ends and the other begins. -/
theorem variables_apart {β : Type} [Backend β] [SeparateBackend β] (var : VarId) :
    Apart β var where
  acquisitions steps later :=
    ⟨(Timeline.after_only var steps).1, (Timeline.after_only var steps).2,
      LockStep.exists_only_append var [] steps later⟩
  unblocked _ limit h := Timeline.unblocked h limit
  moves _ hfresh ms hout := ((hfresh.mirrors var).moves rfl ms hout).1.sameOn
  run _ hfresh := (hfresh.mirrors_run var).sameOn
  unwritten sys hfresh hno := by
    have hnone : (sys.only var).tasks = [] := by
      apply List.filter_eq_nil_iff.2
      exact fun task hmem hon => hno task hmem (Call.isOn_iff.1 hon)
    have hdone : (sys.only var).Done := by
      rw [System.Done, hnone]
      exact List.forall_mem_nil _
    have htext := (hfresh.mirrors_run var).sameOn.text
    rw [System.run, System.runFor_of_done hdone] at htext
    exact htext.symm

/-- Increments of three variables, of which two differ only in where the scope ends and the key
begins, with an update and a read of the first one.  Nobody waits for a lock. -/
def lookalikes : System Memory where
  store := { backend := {}, limit := some 0 }
  tasks := [{ call := .increment ⟨⟨"ab"⟩, "c"⟩ (.int64 1) },
    { call := .increment ⟨⟨"a"⟩, "bc"⟩ (.int64 10) },
    { call := .increment ⟨⟨"ab"⟩, "bc"⟩ (.int64 20), start := 1 },
    { call := .update ⟨⟨"ab"⟩, "c"⟩ id, start := 1 },
    { call := .get ⟨⟨"ab"⟩, "c"⟩, start := 5 }]
  delay := 2

theorem lookalikes_apart : SeparateBackend Memory ∧ lookalikes.Fresh ∧
    lookalikes.run.tasks.map (·.stage.outcome?) =
      [some (.ok (.total 1)), some (.ok (.total 10)), some (.ok (.total 20)),
        some (.error (.lockTimeout ⟨⟨"ab"⟩, "c"⟩ 0)),
        some (.ok (.value (some (.number (.ofInt 1)))))] ∧
    Apart Memory ⟨⟨"ab"⟩, "c"⟩ :=
  ⟨inferInstance, ⟨⟨rfl, rfl⟩, by simp [lookalikes]⟩, by decide +kernel, variables_apart _⟩

end TypedVars
