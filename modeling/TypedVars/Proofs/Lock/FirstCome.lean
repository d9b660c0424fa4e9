import Mathlib.Data.List.Induction
import Mathlib.Data.List.Nodup
import Mathlib.Data.List.Perm.Basic
import TypedVars.Proofs.Lock.Fairness
import TypedVars.Proofs.Lock.Refinement

/-!
# First come, first served

Waiting for a lock is first come, first served, and nothing bounds it but the limit that the
acquisition brings along.  `Timeline.FirstCome` says what this means of a run, and
`run_firstCome` that every run is so.

A moment of a run (`UpTo`) is what its steps have come to so far; it may lie within a passing of
time.  What is said of the end of a run is said of every moment too, since every moment is the end
of a run.

The order of the grants is read off the run step by step (`grants`) and compared with the order of
arrival, which is that of the tickets.  That an acquisition which gave up delays nobody is said by
leaving it out: in the run without it (`LockStep.without`) everybody else fares the same at every
moment.
-/

namespace TypedVars

namespace Timeline

variable {p steps : List LockStep} {var : VarId} {i j : Ticket} {a b : Acquisition}

/-! ## Moments -/

/-- The timeline after some steps. -/
def after (steps : List LockStep) : Timeline := ({} : Timeline).run steps

/-- Steps up to a moment of a run, where the last may be a passing of time that is not over yet. -/
def UpTo (p steps : List LockStep) : Prop :=
  p <+: steps ∨ ∃ before ms rest,
    p = before ++ [.advance ms] ∧ before ++ [.advance (ms + rest)] <+: steps

lemma register_after (steps : List LockStep) :
    (after steps).register = ({} : Register).run steps :=
  settled_empty.register_run steps

lemma fair_after (steps : List LockStep) : (after steps).register.Fair :=
  register_after steps ▸ Register.fair_empty.run steps

lemma grows_after (steps more : List LockStep) :
    (after steps).register.Grows (after (steps ++ more)).register := by
  rw [register_after, register_after, Register.run_append]
  exact Register.grows_run _ more

/-- From each moment the acquisitions go on to what they are in the end. -/
lemma UpTo.grows (h : UpTo p steps) : (after p).register.Grows (after steps).register := by
  rcases h with ⟨more, rfl⟩ | ⟨before, ms, rest, rfl, more, rfl⟩
  · exact grows_after p more
  · have hadvance : (after (before ++ [.advance (ms + rest)])).register =
        (after (before ++ [.advance ms] ++ [.advance rest])).register := by
      simp only [register_after, Register.run_append]
      exact (Register.advance_advance _ ms rest).symm
    have hrest := grows_after (before ++ [.advance ms]) [.advance rest]
    exact (hadvance ▸ hrest).trans (grows_after _ more)

lemma after_concat (steps : List LockStep) (s : LockStep) :
    after (steps ++ [s]) = (after steps).step s :=
  List.foldl_concat ..

lemma register_after_concat (steps : List LockStep) (s : LockStep) :
    (after (steps ++ [s])).register = (after steps).register.step s := by
  rw [register_after, register_after, Register.run_append]
  rfl

lemma exists_asked (steps : List LockStep) (ha : (after steps).acquisitions[i]? = some a) :
    ∃ earlier later, steps = earlier ++ .acquire a.var a.limit :: later ∧
      (after earlier).acquisitions.length = i ∧ (after earlier).now = a.since := by
  induction steps using List.reverseRecOn generalizing a with
  | nil => simp [after, run] at ha
  | append_singleton steps s ih =>
    have hstep : ((after steps).register.step s).entries[i]? = some a :=
      register_after_concat steps s ▸ ha
    by_cases hi : i < (after steps).register.entries.length
    · obtain ⟨b, hb, hbecame⟩ := Register.exists_became hstep hi
      obtain ⟨earlier, later, rfl, hlength, hnow⟩ := ih hb
      refine ⟨earlier, later ++ [s], ?_, hlength, hnow.trans hbecame.since.symm⟩
      rw [hbecame.var, hbecame.limit, List.append_assoc, List.cons_append]
    · -- a new entry is that of an acquisition
      have hlt := (List.getElem?_eq_some_iff.1 hstep).1
      rw [Register.length_step] at hlt
      cases s with
      | acquire var limit =>
        have hi : i = (after steps).register.entries.length :=
          Nat.le_antisymm (Nat.le_of_lt_succ hlt) (Nat.not_lt.1 hi)
        rw [Register.step, Register.getElem?_acquire, if_pos hi,
          Register.expire_newcomer] at hstep
        cases hstep
        exact ⟨steps, [], rfl, hi.symm, rfl⟩
      | release k => exact absurd hlt hi
      | advance ms => exact absurd hlt hi

/-! ## First come, first served -/

/-- Somebody else than a ticket holds a variable. -/
def HeldByOther (t : Timeline) (i : Ticket) (var : VarId) : Prop :=
  ∃ (j : Ticket) (b : Acquisition),
    j ≠ i ∧ t.acquisitions[j]? = some b ∧ b.var = var ∧ b.status = .held

/-- The tickets to which a variable has been granted, in order of arrival. -/
def granted (t : Timeline) (var : VarId) : List Ticket :=
  (List.range t.acquisitions.length).filter fun i =>
    t.acquisitions[i]?.any fun a => a.var = var && a.isGranted

/-- The tickets to which a variable is granted in one step. -/
def newlyGranted (t : Timeline) (var : VarId) (s : LockStep) : List Ticket :=
  ((t.step s).granted var).filter (· ∉ t.granted var)

/-- The tickets to which a variable is granted in some steps, in the order of the grants. -/
def grants (t : Timeline) (var : VarId) : List LockStep → List Ticket
  | [] => []
  | s :: rest => t.newlyGranted var s ++ (t.step s).grants var rest

/-- In a run locks are granted in order of arrival, and waiting is bounded by the limits alone. -/
structure FirstCome (steps : List LockStep) : Prop where
  /-- Every acquisition is one that was asked for, with its variable, its limit and its time. -/
  asked : ∀ (i : Ticket) (a : Acquisition), (after steps).acquisitions[i]? = some a →
    ∃ earlier later, steps = earlier ++ .acquire a.var a.limit :: later ∧
      (after earlier).acquisitions.length = i ∧ (after earlier).now = a.since
  /-- A variable that nobody holds is granted at once, whatever the limit is. -/
  free : ∀ (var : VarId) (limit : Option Nat),
    (∀ a ∈ (after steps).acquisitions, a.var = var → a.status ≠ .held) →
      ((after steps).step (.acquire var limit)).acquisitions =
        (after steps).acquisitions ++ [⟨var, (after steps).now, limit, .held⟩]
  /-- Nobody waits for a free variable. -/
  awaited : ∀ (i : Ticket) (a : Acquisition), (after steps).acquisitions[i]? = some a →
    a.status = .waiting → (after steps).HeldByOther i a.var
  /-- A step grants a variable to one at most. -/
  one_by_one : ∀ earlier s, earlier ++ [s] <+: steps → ∀ var,
    ((after earlier).newlyGranted var s).length ≤ 1
  /-- The order of the grants is the order of arrival. -/
  in_order : ∀ var, ({} : Timeline).grants var steps = (after steps).granted var
  /-- Those passed over by a grant are those that had the lock before and those refused. -/
  passed_over : ∀ (i j : Ticket) (a b : Acquisition), i < j →
    (after steps).acquisitions[i]? = some a → (after steps).acquisitions[j]? = some b →
    a.var = b.var → b.isGranted = true → a.status = .released ∨ a.status = .refused
  /-- A refusal names what was asked for.  Somebody else held the variable when the acquisition
  started and at every moment from then on, until it was refused, and then its limit had passed. -/
  refused : ∀ (i : Ticket) (a : Acquisition), (after steps).acquisitions[i]? = some a →
    a.status = .refused →
      ∃ limit, a.limit = some limit ∧ a.failure = .lockTimeout a.var limit ∧
        (∀ earlier, earlier ++ [.acquire a.var a.limit] <+: steps →
          (after earlier).acquisitions.length = i → (after earlier).HeldByOther i a.var) ∧
        ∀ p, UpTo p steps → ∀ b, (after p).acquisitions[i]? = some b →
          if b.status = .refused then a.since + limit ≤ (after p).now
          else (after p).HeldByOther i a.var
  /-- Nobody waits for longer than its limit. -/
  timely : ∀ (i : Ticket) (a : Acquisition) (limit : Nat),
    (after steps).acquisitions[i]? = some a → a.limit = some limit →
    a.since + limit ≤ (after steps).now → a.status ≠ .waiting
  /-- Without a limit there is no refusal. -/
  unbounded : ∀ (i : Ticket) (a : Acquisition), (after steps).acquisitions[i]? = some a →
    a.limit = none → a.status ≠ .refused
  /-- A refusal is for ever. -/
  final : ∀ (i : Ticket) (a : Acquisition), (after steps).acquisitions[i]? = some a →
    a.status = .refused → ∀ more, (after (steps ++ more)).acquisitions[i]? = some a
  /-- Without one that is refused all others fare the same at every moment. -/
  undelayed : ∀ (i : Ticket) (a : Acquisition), (after steps).acquisitions[i]? = some a →
    a.status = .refused → ∀ p, UpTo p steps →
      (after (LockStep.without i 0 p)).acquisitions = (after p).acquisitions.eraseIdx i

/-! ## The order of the grants -/

lemma mem_granted {t : Timeline} : i ∈ t.granted var ↔
    ∃ a, t.acquisitions[i]? = some a ∧ a.var = var ∧ a.isGranted = true := by
  simp only [granted, List.mem_filter, List.mem_range, Option.any_eq_true, Bool.and_eq_true,
    decide_eq_true_eq]
  refine ⟨fun ⟨_, a, ha⟩ => ⟨a, ha⟩, fun ⟨a, ha⟩ => ⟨?_, a, ha⟩⟩
  exact (List.getElem?_eq_some_iff.1 ha.1).1

lemma pairwise_granted (t : Timeline) (var : VarId) : (t.granted var).Pairwise (· < ·) :=
  List.pairwise_lt_range.filter _

lemma granted_subset_concat (steps : List LockStep) (s : LockStep) (var : VarId)
    (hi : i ∈ (after steps).granted var) : i ∈ (after (steps ++ [s])).granted var := by
  obtain ⟨a, ha, hvar, hgranted⟩ := mem_granted.1 hi
  obtain ⟨b, hb, hbecame⟩ := grows_after steps [s] i a ha
  exact mem_granted.2 ⟨b, hb, hbecame.var.trans hvar, hbecame.isGranted hgranted⟩

/-- Who is granted in a step came after all who were granted before. -/
lemma lt_of_granted_concat {s : LockStep} (hj : j ∈ (after steps).granted var)
    (hi : i ∈ (after (steps ++ [s])).granted var) (hnew : i ∉ (after steps).granted var) :
    j < i := by
  by_contra hle
  have hlt : i < j := Nat.lt_of_le_of_ne (Nat.not_lt.1 hle) fun e => hnew (e ▸ hj)
  obtain ⟨b, hb, hbvar, hbgranted⟩ := mem_granted.1 hj
  obtain ⟨a', ha', havar, hagranted⟩ := mem_granted.1 hi
  have hstep : ((after steps).register.step s).entries[i]? = some a' :=
    register_after_concat steps s ▸ ha'
  obtain ⟨a, ha, hbecame⟩ := Register.exists_became hstep
    (Nat.lt_trans hlt (List.getElem?_eq_some_iff.1 hb).1)
  have hvar : a.var = var := hbecame.var.symm.trans havar
  have hover := (fair_after steps).in_order i j a b hlt ha hb (hvar.trans hbvar.symm) hbgranted
  rcases Acquisition.isActive_eq_false_iff.1 hover with hrefused | hreleased
  · rw [hbecame.eq_of_refused hrefused, Acquisition.isGranted_iff, hrefused] at hagranted
    simp at hagranted
  · exact hnew (mem_granted.2 ⟨a, ha, hvar, Acquisition.isGranted_iff.2 (.inr hreleased)⟩)

lemma mem_newlyGranted {s : LockStep} : i ∈ (after steps).newlyGranted var s ↔
    i ∈ (after (steps ++ [s])).granted var ∧ i ∉ (after steps).granted var := by
  rw [newlyGranted, ← after_concat, List.mem_filter, decide_eq_true_eq]

lemma pairwise_newlyGranted (t : Timeline) (var : VarId) (s : LockStep) :
    (t.newlyGranted var s).Pairwise (· < ·) :=
  (pairwise_granted _ var).filter _

lemma granted_concat (steps : List LockStep) (s : LockStep) (var : VarId) :
    (after steps).granted var ++ (after steps).newlyGranted var s =
      (after (steps ++ [s])).granted var := by
  have hordered : ((after steps).granted var ++ (after steps).newlyGranted var s).Pairwise
      (· < ·) := by
    refine List.pairwise_append.2
      ⟨pairwise_granted _ var, pairwise_newlyGranted _ var s, fun j hj i hi => ?_⟩
    obtain ⟨hi, hnew⟩ := mem_newlyGranted.1 hi
    exact lt_of_granted_concat hj hi hnew
  have hmem : ∀ i, i ∈ (after steps).granted var ++ (after steps).newlyGranted var s ↔
      i ∈ (after (steps ++ [s])).granted var := by
    intro i
    have hsub : i ∈ (after steps).granted var → i ∈ (after (steps ++ [s])).granted var :=
      granted_subset_concat steps s var
    simp only [List.mem_append, mem_newlyGranted]
    tauto
  exact List.Perm.eq_of_pairwise (fun i j _ _ hij hji => absurd hij (Nat.lt_asymm hji)) hordered
    (pairwise_granted _ var) ((List.perm_ext_iff_of_nodup (hordered.imp Nat.ne_of_lt)
      ((pairwise_granted _ var).imp Nat.ne_of_lt)).2 hmem)

/-- The one who is granted in a step holds, so there is no other. -/
lemma length_newlyGranted_le (steps : List LockStep) (s : LockStep) (var : VarId) :
    ((after steps).newlyGranted var s).length ≤ 1 := by
  have hheld : ∀ i ∈ (after steps).newlyGranted var s, ∃ a,
      (after (steps ++ [s])).register.entries[i]? = some a ∧ a.var = var ∧ a.status = .held := by
    intro i hi
    obtain ⟨hi, hnew⟩ := mem_newlyGranted.1 hi
    obtain ⟨a, ha, hvar, hgranted⟩ := mem_granted.1 hi
    refine ⟨a, ha, hvar, ?_⟩
    have hstep : ((after steps).register.step s).entries[i]? = some a :=
      register_after_concat steps s ▸ ha
    refine Register.held_of_granted hstep hgranted fun b hb => ?_
    obtain ⟨c, hc, hbecame⟩ := (after steps).register.grows_step s i b hb
    rw [hstep] at hc
    cases hc
    by_contra hb'
    exact hnew (mem_granted.2 ⟨b, hb, hbecame.var.symm.trans hvar, by simpa using hb'⟩)
  match hnew : (after steps).newlyGranted var s, pairwise_newlyGranted (after steps) var s with
  | [], _ => exact Nat.zero_le _
  | [_], _ => exact Nat.le_refl _
  | i :: j :: rest, hordered =>
    obtain ⟨a, ha, havar, haheld⟩ := hheld i (by simp [hnew])
    obtain ⟨b, hb, hbvar, hbheld⟩ := hheld j (by simp [hnew])
    have heq := (fair_after _).one_holder ha hb haheld hbheld (havar.trans hbvar.symm)
    have hlt := (List.pairwise_cons.1 hordered).1 j List.mem_cons_self
    exact absurd heq (Nat.ne_of_lt hlt)

/-- The order of the grants is the order of arrival. -/
lemma granted_append_grants (steps more : List LockStep) (var : VarId) :
    (after steps).granted var ++ (after steps).grants var more =
      (after (steps ++ more)).granted var := by
  induction more generalizing steps with
  | nil => rw [grants, List.append_nil, List.append_nil]
  | cons s rest ih =>
    rw [grants, ← List.append_assoc, granted_concat, ← after_concat, ih, List.append_assoc,
      List.singleton_append]

/-! ## Every run -/

lemma heldByOther_of_waiting (ha : (after p).acquisitions[i]? = some a)
    (hwait : a.status = .waiting) : (after p).HeldByOther i a.var := by
  obtain ⟨j, b, hb, hvar, hheld⟩ := (fair_after p).awaited i a ha hwait
  refine ⟨j, b, ?_, hb, hvar, hheld⟩
  rintro rfl
  rw [entries_register, ha] at hb
  cases hb
  rw [hwait] at hheld
  cases hheld

lemma ungranted_of_refused (ha : (after steps).acquisitions[i]? = some a)
    (hrefused : a.status = .refused) : (after steps).register.Ungranted i := by
  intro b hb
  rw [entries_register, ha] at hb
  cases hb
  simp [Acquisition.isGranted, hrefused]

/-- One who is refused in the end asked for what another held. -/
lemma heldByOther_of_started {earlier : List LockStep}
    (ha : (after steps).acquisitions[i]? = some a) (hrefused : a.status = .refused)
    (hwithin : earlier ++ [.acquire a.var a.limit] <+: steps)
    (hlength : (after earlier).acquisitions.length = i) :
    (after earlier).HeldByOther i a.var := by
  cases htaken : (after earlier).register.isTaken a.var with
  | true =>
    obtain ⟨j, b, hb, hvar, hheld⟩ := (fair_after earlier).exists_held htaken
    have hj := (List.getElem?_eq_some_iff.1 hb).1
    exact ⟨j, b, Nat.ne_of_lt (hlength ▸ hj), hb, hvar, hheld⟩
  | false =>
    have hnot := (UpTo.grows (.inl hwithin)).ungranted (ungranted_of_refused ha hrefused)
    have hnew : (after (earlier ++ [.acquire a.var a.limit])).register.entries[i]? =
        some ⟨a.var, (after earlier).now, a.limit, .held⟩ := by
      rw [register_after_concat, Register.step, Register.acquire_of_free htaken, ← hlength]
      exact List.getElem?_concat_length
    cases hnot _ hnew

/-- Until one that is refused in the end was refused, somebody else held the variable; then its
limit had passed. -/
lemma UpTo.overdue_or_heldByOther (hp : UpTo p steps) {limit : Nat}
    (ha : (after steps).acquisitions[i]? = some a) (hrefused : a.status = .refused)
    (hlimit : a.limit = some limit) (hb : (after p).acquisitions[i]? = some b) :
    if b.status = .refused then a.since + limit ≤ (after p).now
    else (after p).HeldByOther i a.var := by
  obtain ⟨c, hc, hbecame⟩ := hp.grows i b hb
  rw [entries_register, ha] at hc
  cases hc
  split
  · next hover =>
    obtain ⟨limit', hlimit', hdue⟩ :=
      Acquisition.isOverdue_iff.1 (((fair_after p).punctual i b hb).overdue hover)
    rw [hbecame.eq_of_refused hover, hlimit'] at hlimit
    cases hlimit
    exact hbecame.since ▸ hdue
  · next hopen =>
    have hnot := hp.grows.ungranted (ungranted_of_refused ha hrefused) b hb
    have hwait : b.status = .waiting := by
      cases hstatus : b.status <;> simp_all [Acquisition.isGranted]
    exact hbecame.var ▸ heldByOther_of_waiting hb hwait

/-- Who asks for what nobody holds holds it. -/
lemma acquisitions_acquire_of_free (steps : List LockStep) (var : VarId) (limit : Option Nat)
    (hfree : ∀ a ∈ (after steps).acquisitions, a.var = var → a.status ≠ .held) :
    ((after steps).step (.acquire var limit)).acquisitions =
      (after steps).acquisitions ++ [⟨var, (after steps).now, limit, .held⟩] := by
  have htaken : (after steps).register.isTaken var = false := by
    by_contra htaken
    obtain ⟨j, b, hb, hvar, hheld⟩ := (fair_after steps).exists_held (by simpa using htaken)
    exact hfree b (List.mem_of_getElem? hb) hvar hheld
  have hgranted := Register.acquire_of_free htaken limit
  rw [← after_concat, ← entries_register, register_after_concat]
  exact congrArg Register.entries hgranted

/-- Without an acquisition that has not been granted the others are the same. -/
lemma acquisitions_without (hnot : (after p).register.Ungranted i) :
    (after (LockStep.without i 0 p)).acquisitions = (after p).acquisitions.eraseIdx i := by
  rw [register_after] at hnot
  have hrun := Register.fair_empty.run_without p hnot
  rw [Register.erase_of_length_le (Nat.zero_le i), ← register_after, ← register_after] at hrun
  exact congrArg Register.entries hrun

/-- Every run is first come, first served. -/
theorem run_firstCome (steps : List LockStep) : FirstCome steps where
  asked i a ha := exists_asked steps ha
  free := acquisitions_acquire_of_free steps
  awaited i a ha hwait := heldByOther_of_waiting ha hwait
  one_by_one earlier s _ var := length_newlyGranted_le earlier s var
  in_order var := granted_append_grants [] steps var
  passed_over i j a b hij ha hb hvar hgranted :=
    (Acquisition.isActive_eq_false_iff.1
      ((fair_after steps).in_order i j a b hij ha hb hvar hgranted)).symm
  refused i a ha hrefused := by
    obtain ⟨limit, hlimit, -⟩ :=
      Acquisition.isOverdue_iff.1 (((fair_after steps).punctual i a ha).overdue hrefused)
    refine ⟨limit, hlimit, by rw [Acquisition.failure, hlimit]; rfl, ?_, ?_⟩
    · exact fun earlier hwithin hlength => heldByOther_of_started ha hrefused hwithin hlength
    · exact fun p hp b hb => hp.overdue_or_heldByOther ha hrefused hlimit hb
  timely i a limit ha hlimit hdue hwait := by
    have hnot := ((fair_after steps).punctual i a ha).timely hwait
    have hover := Acquisition.isOverdue_iff.2 ⟨limit, hlimit, hdue⟩
    exact Bool.false_ne_true (hnot.symm.trans hover)
  unbounded i a ha hlimit hrefused := by
    obtain ⟨limit, hlimit', -⟩ :=
      Acquisition.isOverdue_iff.1 (((fair_after steps).punctual i a ha).overdue hrefused)
    rw [hlimit] at hlimit'
    cases hlimit'
  final i a ha hrefused more := by
    obtain ⟨b, hb, hbecame⟩ := grows_after steps more i a ha
    rw [← hbecame.eq_of_refused hrefused]
    exact hb
  undelayed i a ha hrefused p hp :=
    acquisitions_without (hp.grows.ungranted (ungranted_of_refused ha hrefused))

example : ({} : Timeline).grants ⟨⟨"s"⟩, "k"⟩
    [.acquire ⟨⟨"s"⟩, "k"⟩ none, .acquire ⟨⟨"s"⟩, "k"⟩ (some 5), .acquire ⟨⟨"s"⟩, "k"⟩ none,
      .advance 5, .release 0] = [0, 2] := by
  decide

end Timeline

end TypedVars
