import Mathlib.Tactic.Common
import TypedVars.Proofs.Lock.Register

/-!
# Timelines are registers

What a timeline shows of itself, the time and the acquisitions, is a register
(`Timeline.register`), and each step of the timeline is the step of the register
(`register_run`).  So the table with its queues and references does nothing but find the first
acquisition that waits.

Settling does not depend on its own order: what becomes of each acquisition is decided by the state
before (`Timeline.outcome`), because no grant and no withdrawal moves the head of a line
(`Agrees.getElem?_settle`).  The lines are in order of arrival (`Ordered`), so the head of a line
that its holder has left is the first acquisition that waits (`head?_eq_findIdx?`).
-/

namespace TypedVars

namespace Timeline

variable {t : Timeline} {i j : Ticket} {a : Acquisition}

/-! ## What settling comes to -/

/-- What happens to an acquisition when the timeline settles. -/
def outcome (t : Timeline) (i : Ticket) (a : Acquisition) : Acquisition :=
  if a.status = .waiting then
    if (t.locks.users a.var).head? = some i then { a with status := .held } else a.expire t.now
  else a

/-- Nothing happens to one who stands behind another and has time left. -/
lemma outcome_eq_self (h : a.status = .waiting →
    (t.locks.users a.var).head? ≠ some i ∧ a.isOverdue t.now = false) : t.outcome i a = a := by
  unfold outcome
  split
  · next hwait =>
    obtain ⟨hhead, hdue⟩ := h hwait
    simp [hhead, Acquisition.expire, hdue]
  · rfl

/-- Settling one acquisition changes that one and no head of a line. -/
lemma Agrees.settleOne_spec (h : t.Agrees) (i : Ticket) :
    (t.settleOne i).now = t.now ∧
      (∀ j, (t.settleOne i).acquisitions[j]? =
        if j = i then t.acquisitions[j]?.map (t.outcome j) else t.acquisitions[j]?) ∧
      ∀ v, ((t.settleOne i).locks.users v).head? = (t.locks.users v).head? ∧
        ((t.settleOne i).locks.users v).Sublist (t.locks.users v) := by
  rcases h.settleOne_cases i with ⟨heq, hrest⟩ | ⟨a, ha, hwait, hhead, heq⟩ |
    ⟨a, ha, hwait, hhead, hdue, heq⟩
  · rw [heq]
    refine ⟨rfl, fun j => ?_, fun v => ⟨rfl, List.Sublist.refl _⟩⟩
    split
    · next hj =>
      subst hj
      cases ha : t.acquisitions[j]? with
      | none => rfl
      | some a => rw [Option.map_some, outcome_eq_self (hrest a ha)]
    · rfl
  · rw [heq]
    refine ⟨rfl, fun j => ?_, fun v => ⟨rfl, List.Sublist.refl _⟩⟩
    rw [Timeline.grant, Acquisition.getElem?_set ha]
    split
    · next hj =>
      subst hj
      rw [ha, Option.map_some, outcome, if_pos hwait, if_pos hhead]
    · rfl
  · rw [heq]
    have hin : i ∈ t.locks.users a.var :=
      (h.line_iff a.var i).2 ⟨a, ha, rfl, Acquisition.isActive_iff.2 (.inl hwait)⟩
    refine ⟨rfl, fun j => ?_, fun v => ⟨h.head?_abandon hin hhead v, ?_⟩⟩
    · rw [Timeline.refuse, Acquisition.getElem?_set ha]
      split
      · next hj =>
        subst hj
        rw [ha, Option.map_some, outcome, if_pos hwait, if_neg hhead, Acquisition.expire,
          if_pos ⟨hwait, hdue⟩]
      · rfl
    · rw [Timeline.refuse, (h.sound.abandon hin hhead).2]
      split
      · next hv => exact hv ▸ List.filter_sublist
      · exact List.Sublist.refl _

lemma outcome_congr {t' : Timeline} (hnow : t'.now = t.now)
    (hhead : ∀ v, (t'.locks.users v).head? = (t.locks.users v).head?) :
    t'.outcome = t.outcome := by
  funext i a
  simp only [outcome, hnow, hhead]

lemma Agrees.foldl_settleOne_spec (is : List Ticket) :
    ∀ {t : Timeline}, t.Agrees → is.Nodup → (is.foldl Timeline.settleOne t).now = t.now ∧
      (∀ j, (is.foldl Timeline.settleOne t).acquisitions[j]? =
        if j ∈ is then t.acquisitions[j]?.map (t.outcome j) else t.acquisitions[j]?) ∧
      ∀ v, ((is.foldl Timeline.settleOne t).locks.users v).Sublist (t.locks.users v) := by
  induction is with
  | nil => exact fun _ _ => ⟨rfl, fun _ => rfl, fun _ => List.Sublist.refl _⟩
  | cons i is ih =>
    intro t h hnd
    obtain ⟨hi, hnd⟩ := List.nodup_cons.1 hnd
    obtain ⟨hnow, hentry, hline⟩ := h.settleOne_spec i
    obtain ⟨hnow', hentry', hline'⟩ := ih (h.settleOne i).1 hnd
    have houtcome := outcome_congr hnow fun v => (hline v).1
    refine ⟨hnow'.trans hnow, fun j => ?_, fun v => (hline' v).trans (hline v).2⟩
    rw [List.foldl_cons, hentry', hentry, houtcome]
    by_cases hj : j = i
    · simp [hj, hi]
    · simp [hj]

/-- Settling takes no time, gives each acquisition its outcome, and adds nobody to a line. -/
lemma Agrees.settle_spec (h : t.Agrees) : t.settle.now = t.now ∧
    (∀ j, t.settle.acquisitions[j]? = t.acquisitions[j]?.map (t.outcome j)) ∧
    ∀ v, (t.settle.locks.users v).Sublist (t.locks.users v) := by
  obtain ⟨hnow, hentry, hline⟩ := Agrees.foldl_settleOne_spec _ h List.nodup_range
  refine ⟨hnow, fun j => (hentry j).trans ?_, hline⟩
  split
  · rfl
  · next hj =>
    rw [List.mem_range] at hj
    rw [List.getElem?_eq_none (Nat.not_lt.1 hj)]
    rfl

/-! ## Lines in order of arrival -/

/-- Everybody stands behind those who came before. -/
def Ordered (t : Timeline) : Prop := ∀ var, (t.locks.users var).Pairwise (· < ·)

lemma Ordered.settle (h : t.Ordered) (hagrees : t.Agrees) : t.settle.Ordered := fun var =>
  (h var).sublist (hagrees.settle_spec.2.2 var)

/-- A quiet timeline whose lines are in order. -/
structure Settled (t : Timeline) : Prop extends Quiet t where
  ordered : t.Ordered

lemma settled_empty : ({} : Timeline).Settled where
  toQuiet := quiet_empty
  ordered var := by simp [Locks.unused_empty.users_eq_nil]

/-- The line after a new acquisition. -/
lemma Agrees.users_started (h : t.Agrees) (var v : VarId) :
    (t.locks.request var t.acquisitions.length).users v =
      if v = var then t.locks.users var ++ [t.acquisitions.length] else t.locks.users v :=
  (h.sound.request h.not_mem_users var).2 v

/-- The line after a holder let go. -/
lemma Agrees.users_released (h : t.Agrees) (ha : t.acquisitions[i]? = some a)
    (hheld : a.status = .held) (v : VarId) :
    (t.locks.release a.var i).users v =
      if v = a.var then (t.locks.users a.var).filter (· ≠ i) else t.locks.users v :=
  (h.sound.release (h.held_head i a ha hheld)).2 v

lemma Settled.step (h : t.Settled) (s : LockStep) : (t.step s).Settled := by
  refine ⟨h.toQuiet.step s, ?_⟩
  cases s with
  | acquire var limit =>
    refine Ordered.settle (fun v => ?_) (h.agrees.started var limit)
    simp only [h.agrees.users_started]
    split
    · refine List.pairwise_append.2 ⟨h.ordered var, List.pairwise_singleton _ _, ?_⟩
      intro k hk n hn
      obtain ⟨a, ha, -⟩ := (h.agrees.line_iff var k).1 hk
      rw [List.mem_singleton.1 hn]
      exact (List.getElem?_eq_some_iff.1 ha).1
    · exact h.ordered v
  | release ticket =>
    rw [Timeline.step, Timeline.release]
    cases ha : t.acquisitions[ticket]? with
    | none => exact h.ordered
    | some a =>
      by_cases hheld : a.status = .held
      · simp only [hheld, if_true]
        refine Ordered.settle (fun v => ?_) (h.agrees.released ha hheld)
        simp only [h.agrees.users_released ha hheld]
        split
        · exact (h.ordered a.var).filter _
        · exact h.ordered v
      · simp only [hheld, if_false]
        exact h.ordered
  | advance ms =>
    exact Ordered.settle (t := { t with now := t.now + ms }) h.ordered
      ⟨h.agrees.sound, h.agrees.line_iff, h.agrees.held_head⟩

/-- Of the numbers of the entries with some property, in order, the first is the one that a search
finds. -/
lemma head?_eq_findIdx? {line : List Ticket} {entries : List Acquisition}
    {p : Acquisition → Bool} (hordered : line.Pairwise (· < ·))
    (hmem : ∀ j, j ∈ line ↔ ∃ a, entries[j]? = some a ∧ p a = true) :
    line.head? = entries.findIdx? p := by
  symm
  cases line with
  | nil =>
    refine List.findIdx?_eq_none_iff.2 fun a ha => ?_
    obtain ⟨j, hj⟩ := List.mem_iff_getElem?.1 ha
    by_contra hp
    simpa using (hmem j).2 ⟨a, hj, by simpa using hp⟩
  | cons first rest =>
    obtain ⟨a, ha, hp⟩ := (hmem first).1 List.mem_cons_self
    obtain ⟨hlt, rfl⟩ := List.getElem?_eq_some_iff.1 ha
    refine List.findIdx?_eq_some_iff_getElem.2 ⟨hlt, hp, fun k hk hpk => ?_⟩
    have hin := (hmem k).2 ⟨_, List.getElem?_eq_getElem (Nat.lt_trans hk hlt), hpk⟩
    rcases List.mem_cons.1 hin with rfl | hin
    · exact Nat.lt_irrefl _ hk
    · exact Nat.lt_asymm hk ((List.pairwise_cons.1 hordered).1 k hin)

/-- Who comes first when a holder lets go is the first who waits. -/
lemma Settled.head?_released (h : t.Settled) (ha : t.acquisitions[i]? = some a)
    (hheld : a.status = .held) :
    ((t.locks.release a.var i).users a.var).head? =
      t.acquisitions.findIdx? (·.awaits a.var) := by
  rw [h.agrees.users_released ha hheld, if_pos rfl]
  refine head?_eq_findIdx? ((h.ordered a.var).filter _) fun j => ?_
  simp only [List.mem_filter, h.agrees.line_iff, Acquisition.awaits_iff, decide_eq_true_eq]
  constructor
  · rintro ⟨⟨b, hb, hvar, hactive⟩, hj⟩
    refine ⟨b, hb, hvar, (Acquisition.isActive_iff.1 hactive).resolve_right fun hbheld => hj ?_⟩
    have hhead := h.agrees.held_head j b hb hbheld
    rw [hvar, h.agrees.held_head i a ha hheld] at hhead
    exact (Option.some.inj hhead).symm
  · rintro ⟨b, hb, hvar, hwait⟩
    refine ⟨⟨b, hb, hvar, Acquisition.isActive_iff.2 (.inl hwait)⟩, ?_⟩
    rintro rfl
    rw [ha] at hb
    cases hb
    rw [hheld] at hwait
    cases hwait

/-! ## Each step is the step of the register -/

/-- What a timeline shows: the time and the acquisitions. -/
def register (t : Timeline) : Register := ⟨t.now, t.acquisitions⟩

@[simp] lemma now_register (t : Timeline) : t.register.now = t.now := rfl

@[simp] lemma entries_register (t : Timeline) : t.register.entries = t.acquisitions := rfl

/-- A variable is taken when somebody stands in its line. -/
lemma Agrees.isTaken_register (h : t.Agrees) (var : VarId) :
    t.register.isTaken var = true ↔ t.locks.users var ≠ [] := by
  rw [h.users_ne_nil_iff]
  simp [Register.isTaken]

/-- After settling a timeline shows what each acquisition came to. -/
lemma Agrees.register_settle (h : t.Agrees) {r : Register} (hnow : r.now = t.now)
    (hentry : ∀ j, r.entries[j]? = t.acquisitions[j]?.map (t.outcome j)) :
    t.settle.register = r := by
  obtain ⟨hsame, hsettle, -⟩ := h.settle_spec
  exact Register.ext (hsame.trans hnow.symm)
    (List.ext_getElem? fun j => (hsettle j).trans (hentry j).symm)

lemma Settled.register_acquire (h : t.Settled) (var : VarId) (limit : Option Nat) :
    (t.acquire var limit).register = t.register.acquire var limit := by
  refine (h.agrees.started var limit).register_settle rfl fun j => ?_
  rw [Register.getElem?_acquire, Acquisition.getElem?_concat, entries_register]
  by_cases hj : j = t.acquisitions.length
  · rw [if_pos hj, if_pos hj, Option.map_some, outcome, if_pos rfl, h.agrees.users_started,
      if_pos rfl]
    cases hline : t.locks.users var with
    | nil =>
      have hfree : t.register.isTaken var = false := by
        simpa [hline] using h.agrees.isTaken_register var
      simp [Register.newcomer, hfree, hj, Acquisition.expire]
    | cons first rest =>
      have htaken : t.register.isTaken var = true :=
        (h.agrees.isTaken_register var).2 (by simp [hline])
      have hfirst : first ≠ j := by
        rintro rfl
        exact h.agrees.not_mem_users var (hj ▸ hline ▸ List.mem_cons_self)
      simp [Register.newcomer, htaken, hfirst]
  · rw [if_neg hj, if_neg hj]
    cases ha : t.acquisitions[j]? with
    | none => rfl
    | some a =>
      refine congrArg some (outcome_eq_self fun hwait => ?_).symm
      obtain ⟨hhead, hdue⟩ := h.atRest j a ha hwait
      refine ⟨?_, hdue⟩
      -- a line with somebody in it keeps its head when another joins
      have hin : j ∈ t.locks.users a.var :=
        (h.agrees.line_iff a.var j).2 ⟨a, ha, rfl, Acquisition.isActive_iff.2 (.inl hwait)⟩
      rw [h.agrees.users_started]
      split
      · next hv =>
        rw [← hv, List.head?_append_of_ne_nil _ (List.ne_nil_of_mem hin)]
        exact hhead
      · exact hhead

lemma Settled.register_release (h : t.Settled) (i : Ticket) :
    (t.release i).register = t.register.release i := by
  by_cases hheld : ∃ a, t.acquisitions[i]? = some a ∧ a.status = .held
  · obtain ⟨a, ha, hheld⟩ := hheld
    have hreleased := h.agrees.released ha hheld
    simp only [release, ha, hheld, if_true]
    refine hreleased.register_settle ?_ fun j => ?_
    · rw [Register.release_of_held ha hheld]
      rfl
    rw [Register.getElem?_release ha hheld, Acquisition.getElem?_set ha]
    by_cases hj : j = i
    · rw [if_pos hj, if_pos hj]
      rfl
    · rw [if_neg hj, if_neg hj]
      refine Option.map_congr fun b hb => ?_
      by_cases hawaits : b.awaits a.var = true
      · obtain ⟨hvar, hwait⟩ := Acquisition.awaits_iff.1 hawaits
        have hrest : b.expire t.now = b := by
          simp [Acquisition.expire, (h.atRest j b hb hwait).2]
        rw [outcome, if_pos hwait, hvar, h.head?_released ha hheld, hrest]
        rfl
      · have hvar : b.status = .waiting → b.var ≠ a.var := fun hwait hvar =>
          hawaits (Acquisition.awaits_iff.2 ⟨hvar, hwait⟩)
        rw [if_neg (Register.findIdx?_awaits_ne hb (Decidable.not_or_of_imp hvar))]
        refine (outcome_eq_self fun hwait => ?_).symm
        replace hvar := hvar hwait
        rw [h.agrees.users_released ha hheld, if_neg hvar]
        exact h.atRest j b hb hwait
  · push Not at hheld
    have hsame : t.release i = t := by
      unfold release
      split
      · next a ha => exact if_neg (hheld a ha)
      · rfl
    rw [hsame, Register.release_of_not_held hheld]

lemma Settled.register_advance (h : t.Settled) (ms : Nat) :
    (t.advance ms).register = t.register.advance ms := by
  refine Agrees.register_settle (t := { t with now := t.now + ms })
    ⟨h.agrees.sound, h.agrees.line_iff, h.agrees.held_head⟩ rfl fun j => ?_
  rw [Register.getElem?_advance]
  refine Option.map_congr fun a ha => ?_
  unfold outcome
  split
  · next hwait => rw [if_neg (h.atRest j a ha hwait).1, now_register]
  · next hwait => exact Acquisition.expire_of_not_waiting hwait _

lemma Settled.register_step (h : t.Settled) (s : LockStep) :
    (t.step s).register = t.register.step s := by
  cases s with
  | acquire var limit => exact h.register_acquire var limit
  | release i => exact h.register_release i
  | advance ms => exact h.register_advance ms

/-- A timeline shows what the register of the same steps is. -/
theorem Settled.register_run (h : t.Settled) (steps : List LockStep) :
    (t.run steps).register = t.register.run steps := by
  induction steps generalizing t with
  | nil => rfl
  | cons s rest ih =>
    rw [Register.run_cons, ← h.register_step s]
    exact ih (h.step s)

end Timeline

end TypedVars
