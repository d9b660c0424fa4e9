import Mathlib.Tactic.Common
import TypedVars.Proofs.Store.Progress

/-!
# The order of the turns

The scheduler takes the least of the turns that can come: the one with the earliest time, among
those the one of the task that has waited longest, and among those the one with the first ticket
(`System.next?_eq_some_iff`).  A turn that it takes can really be taken at its time, it brings its
task nearer to its answer (`System.Staged.rank_take`), and there is one unless every task has its
answer.
-/

namespace TypedVars

namespace Turn

/-- The order of turns by time, then by the beginning of the wait, then by ticket. -/
def Precedes (a b : Turn) : Prop :=
  a.time < b.time ∨ a.time = b.time ∧
    (a.since < b.since ∨ a.since = b.since ∧ a.ticket ≤ b.ticket)

variable {a b c : Turn}

lemma precedes_refl (a : Turn) : a.Precedes a := .inr ⟨rfl, .inr ⟨rfl, Nat.le_refl _⟩⟩

lemma Precedes.trans (h : a.Precedes b) (h' : b.Precedes c) : a.Precedes c := by
  simp only [Precedes, Ticket] at *
  omega

lemma Precedes.antisymm (h : a.Precedes b) (h' : b.Precedes a) : a = b := by
  obtain ⟨time, since, ticket⟩ := a
  obtain ⟨time', since', ticket'⟩ := b
  simp only [Precedes, mk.injEq, Ticket] at *
  omega

/-- The first of two turns is the least, when the given order is that of the tickets. -/
lemma first_precedes (h : a.ticket < b.ticket) :
    (a.first b).Precedes a ∧ (a.first b).Precedes b := by
  unfold first
  split
  · next hbefore =>
    refine ⟨?_, precedes_refl b⟩
    simp only [before, Bool.or_eq_true, Bool.and_eq_true, decide_eq_true_eq] at hbefore
    simp only [Precedes]
    omega
  · next hnot =>
    refine ⟨precedes_refl a, ?_⟩
    simp only [before, Bool.or_eq_true, Bool.and_eq_true, decide_eq_true_eq] at hnot
    simp only [Precedes, Ticket] at *
    omega

/-- The first of a turn and the one found before it, if there is one. -/
lemma elim_first_spec {best : Option Turn} (h : ∀ b, best = some b → b.ticket < a.ticket) :
    (best = some (best.elim a (·.first a)) ∨ best.elim a (·.first a) = a) ∧
      (best.elim a (·.first a)).Precedes a ∧
      ∀ b, best = some b → (best.elim a (·.first a)).Precedes b := by
  cases best with
  | none => exact ⟨.inr rfl, precedes_refl a, fun b hb => nomatch hb⟩
  | some b =>
    obtain ⟨hb, ha⟩ := first_precedes (h b rfl)
    refine ⟨?_, ha, fun b' hb' => Option.some.inj hb' ▸ hb⟩
    rw [Option.elim_some, first]
    split
    · exact .inr rfl
    · exact .inl rfl

lemma ticket_le_of_elim {best : Option Turn} (h : ∀ b, best = some b → b.ticket < a.ticket)
    (hb : some (best.elim a (·.first a)) = some b) : b.ticket ≤ a.ticket := by
  cases hb
  rcases (elim_first_spec h).1 with hsame | hsame
  · exact Nat.le_of_lt (h _ hsame)
  · exact Nat.le_of_eq (congrArg ticket hsame)

end Turn

namespace System

variable {β : Type} {sys : System β} {t : Ticket} {task : Task} {turn : Turn}

/-- The turn that a task can take from now on, if it can take any. -/
def candidate? (sys : System β) (t : Ticket) (task : Task) : Option Turn :=
  (sys.readyAt? t task).map fun time => ⟨max sys.now time, task.since, t⟩

lemma candidate?_eq_some (h : sys.candidate? t task = some turn) :
    ∃ time, sys.readyAt? t task = some time ∧ turn = ⟨max sys.now time, task.since, t⟩ := by
  obtain ⟨time, htime, rfl⟩ := Option.map_eq_some_iff.1 h
  exact ⟨time, htime, rfl⟩

/-- A turn among those of some tasks, whose tickets begin at some number, and another one. -/
def Offers (sys : System β) (best : Option Turn) (k : Ticket) (tasks : List Task)
    (turn : Turn) : Prop :=
  best = some turn ∨ ∃ i task, tasks[i]? = some task ∧ sys.candidate? (k + i) task = some turn

lemma offers_cons {best : Option Turn} {k : Ticket} {first : Task} {rest : List Task} :
    sys.Offers best k (first :: rest) turn ↔
      sys.candidate? k first = some turn ∨ sys.Offers best (k + 1) rest turn := by
  constructor
  · rintro (hbest | ⟨i, task, hi, hturn⟩)
    · exact .inr (.inl hbest)
    · cases i with
      | zero =>
        cases hi
        exact .inl hturn
      | succ i => exact .inr (.inr ⟨i, task, hi, by rw [← hturn, Nat.add_right_comm]; rfl⟩)
  · rintro (hfirst | hbest | ⟨i, task, hi, hturn⟩)
    · exact .inr ⟨0, first, rfl, hfirst⟩
    · exact .inl hbest
    · exact .inr ⟨i + 1, task, hi, by rw [← hturn, Nat.add_right_comm]; rfl⟩

/-- Of the best turn so far and that of the first task, the first one stands for both. -/
lemma offers_first {best : Option Turn} {k : Ticket} {first : Task} {mine : Turn}
    (hmine : sys.candidate? k first = some mine)
    (hbest : ∀ turn, best = some turn → turn.ticket < mine.ticket) (rest : List Task) :
    (∀ turn, sys.Offers (some (best.elim mine (·.first mine))) (k + 1) rest turn →
      sys.Offers best k (first :: rest) turn) ∧
      ∀ turn, sys.Offers best k (first :: rest) turn → ∃ other,
        sys.Offers (some (best.elim mine (·.first mine))) (k + 1) rest other ∧
          other.Precedes turn := by
  obtain ⟨hone, hmineLeast, hbestLeast⟩ := Turn.elim_first_spec hbest
  constructor
  · rintro turn (hbetter | hlater)
    · cases hbetter
      rcases hone with hsame | hsame
      · exact offers_cons.2 (.inr (.inl hsame))
      · exact offers_cons.2 (.inl (hsame.symm ▸ hmine))
    · exact offers_cons.2 (.inr (.inr hlater))
  · intro turn h
    rcases offers_cons.1 h with hfirst | hwas | hlater
    · cases hmine.symm.trans hfirst
      exact ⟨_, .inl rfl, hmineLeast⟩
    · exact ⟨_, .inl rfl, hbestLeast turn hwas⟩
    · exact ⟨turn, .inr hlater, turn.precedes_refl⟩

/-- What is found is the least of what is offered. -/
lemma firstTurn?_spec (tasks : List Task) (best : Option Turn) (k : Ticket)
    (hbest : ∀ turn, best = some turn → turn.ticket < k) :
    (∀ turn, sys.firstTurn? best k tasks = some turn → sys.Offers best k tasks turn) ∧
      ∀ turn, sys.Offers best k tasks turn →
        ∃ least, sys.firstTurn? best k tasks = some least ∧ least.Precedes turn := by
  induction tasks generalizing best k with
  | nil =>
    refine ⟨fun turn h => .inl h, ?_⟩
    rintro turn (h | ⟨i, task, hi, -⟩)
    · exact ⟨turn, h, turn.precedes_refl⟩
    · cases hi
  | cons first rest ih =>
    rw [firstTurn?]
    cases hready : sys.readyAt? k first with
    | none =>
      have hnone : sys.candidate? k first = none := by rw [candidate?, hready]; rfl
      obtain ⟨hfound, hleast⟩ := ih best (k + 1) fun turn h => Nat.lt_succ_of_lt (hbest turn h)
      refine ⟨fun turn h => offers_cons.2 (.inr (hfound turn h)), fun turn h => ?_⟩
      rcases offers_cons.1 h with h | h
      · rw [hnone] at h
        cases h
      · exact hleast turn h
    | some time =>
      have hmine : sys.candidate? k first = some ⟨max sys.now time, first.since, k⟩ := by
        rw [candidate?, hready]
        rfl
      obtain ⟨hkeep, hfewer⟩ := offers_first hmine hbest rest
      obtain ⟨hfound, hleast⟩ := ih (some _) (k + 1) fun turn h =>
        Nat.lt_succ_of_le
          (Turn.ticket_le_of_elim (a := ⟨max sys.now time, first.since, k⟩) hbest h)
      refine ⟨fun turn h => hkeep turn (hfound turn h), fun turn h => ?_⟩
      obtain ⟨other, hother, hbefore⟩ := hfewer turn h
      obtain ⟨least, hfirst, hprecedes⟩ := hleast other hother
      exact ⟨least, hfirst, hprecedes.trans hbefore⟩

/-- The next turn is the least of those that can come. -/
theorem next?_eq_some_iff : sys.next? = some turn ↔
    (∃ task, sys.tasks[turn.ticket]? = some task ∧
      sys.candidate? turn.ticket task = some turn) ∧
    ∀ i task other, sys.tasks[i]? = some task → sys.candidate? i task = some other →
      turn.Precedes other := by
  obtain ⟨hfound, hleast⟩ := sys.firstTurn?_spec sys.tasks none 0 fun _ h => nomatch h
  have hoffers : ∀ turn, sys.Offers none 0 sys.tasks turn ↔
      ∃ i task, sys.tasks[i]? = some task ∧ sys.candidate? i task = some turn := by
    intro turn
    simp only [Offers, Nat.zero_add, reduceCtorEq, false_or]
  constructor
  · intro h
    obtain ⟨i, task, hi, hturn⟩ := (hoffers turn).1 (hfound turn h)
    obtain ⟨time, -, rfl⟩ := candidate?_eq_some hturn
    refine ⟨⟨task, hi, hturn⟩, ?_⟩
    intro i' task' other hi' hother
    obtain ⟨least, hfirst, hprecedes⟩ := hleast other ((hoffers other).2 ⟨i', task', hi', hother⟩)
    cases hfirst.symm.trans h
    exact hprecedes
  · rintro ⟨⟨task, ht, hturn⟩, hall⟩
    obtain ⟨least, hfirst, hprecedes⟩ := hleast turn ((hoffers turn).2 ⟨_, task, ht, hturn⟩)
    obtain ⟨i, task', hi, hleast'⟩ := (hoffers least).1 (hfound least hfirst)
    cases hprecedes.antisymm (hall i task' least hi hleast')
    exact hfirst

/-- The turn that a task can take now or later can be taken when its time has come. -/
lemma isReady_of_candidate (h : sys.candidate? t task = some turn) :
    sys.now ≤ turn.time ∧ ({ sys with now := turn.time } : System β).isReady t task = true := by
  obtain ⟨time, htime, rfl⟩ := candidate?_eq_some h
  refine ⟨Nat.le_max_left _ _, ?_⟩
  unfold readyAt? at htime
  unfold isReady readyAt?
  cases hstage : task.stage with
  | waiting | reading due =>
    simp only [hstage] at htime ⊢
    cases htime
    exact decide_eq_true (Nat.le_max_right _ _)
  | queued since =>
    simp only [hstage] at htime ⊢
    split
    · exact decide_eq_true (Nat.le_refl _)
    · next hholds =>
      rw [if_neg hholds] at htime
      change ((sys.limitOf task).map (since + ·)).any _ = true
      rw [htime]
      exact decide_eq_true (Nat.le_max_right _ _)
  | deciding current | leaving reply => exact decide_eq_true (Nat.le_refl _)
  | answered time reply =>
    simp only [hstage] at htime
    cases htime

/-- Whether a task can move at all does not depend on the time. -/
lemma exists_candidate {ms : Nat}
    (h : ({ sys with now := sys.now + ms } : System β).isReady t task = true) :
    ∃ turn, sys.candidate? t task = some turn := by
  unfold isReady readyAt? at h
  unfold candidate? readyAt?
  cases hstage : task.stage with
  | waiting | reading due | deciding current | leaving reply => exact ⟨_, rfl⟩
  | queued since =>
    simp only [hstage] at h ⊢
    split
    · exact ⟨_, rfl⟩
    · next hholds =>
      rw [if_neg hholds] at h
      cases hlimit : sys.limitOf task with
      | some limit => exact ⟨_, rfl⟩
      | none =>
        change ((sys.limitOf task).map (since + ·)).any _ = true at h
        rw [hlimit] at h
        cases h
  | answered time reply =>
    simp only [hstage] at h
    cases h

/-- While a task has no answer, there is a next turn. -/
theorem exists_next (hl : sys.Lined) (hs : sys.Staged) (hdone : ¬ sys.Done) :
    ∃ turn, sys.next? = some turn := by
  obtain ⟨ms, t, task, ht, hready⟩ := exists_ready hl hs hdone
  obtain ⟨turn, hturn⟩ := exists_candidate hready
  obtain ⟨-, hleast⟩ := sys.firstTurn?_spec sys.tasks none 0 fun _ h => nomatch h
  obtain ⟨least, hfirst, -⟩ := hleast turn (.inr ⟨t, task, ht, by rw [Nat.zero_add]; exact hturn⟩)
  exact ⟨least, hfirst⟩

/-! ## Taking a turn -/

variable [Backend β]

/-- The system after a turn, which is taken when its time has come. -/
def take (sys : System β) (turn : Turn) : System β :=
  ({ sys with now := turn.time } : System β).step turn.ticket

lemma runFor_succ (n : Nat) (sys : System β) : sys.runFor (n + 1) =
    match sys.next? with
    | some turn => (sys.take turn).runFor n
    | none => sys := rfl

lemma Lined.take (h : sys.Lined) (turn : Turn) : (sys.take turn).Lined :=
  (h.clock turn.time).move (.turn turn.ticket)

lemma Staged.take (h : sys.Staged) (turn : Turn) : (sys.take turn).Staged := by
  have hlater : ({ sys with now := turn.time } : System β).Staged := h
  exact hlater.move (.turn turn.ticket)

/-- A turn lowers the rank. -/
lemma Staged.rank_step (hs : sys.Staged) (ht : sys.tasks[t]? = some task)
    (hready : sys.isReady t task = true) : (sys.step t).rank < sys.rank := by
  rcases sys.step_cases t with ⟨-, hnot⟩ | ⟨task', ht', hready', hstep⟩
  · rw [hnot task ht] at hready
    cases hready
  · rw [hstep]
    exact rank_enter ht' ((advance_turn hready').rank_lt (hs task' (List.mem_of_getElem? ht')))

lemma Staged.rank_take (hs : sys.Staged) (ht : sys.tasks[turn.ticket]? = some task)
    (hturn : sys.candidate? turn.ticket task = some turn) : (sys.take turn).rank < sys.rank := by
  have hlater : ({ sys with now := turn.time } : System β).Staged := hs
  exact hlater.rank_step ht (isReady_of_candidate hturn).2

end System

end TypedVars
