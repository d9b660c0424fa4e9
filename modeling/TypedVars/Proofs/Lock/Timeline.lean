import Mathlib.Data.List.Dedup
import Mathlib.Data.List.Perm.Basic
import TypedVars.Lock.Timeline
import TypedVars.Proofs.Lock.Table

/-!
# The lock table in time

A timeline and its table *agree* (`Timeline.Agrees`) when the line of each variable consists of the
acquisitions of it that wait or hold, with one that holds at the head.  This is so even in the
middle of `Timeline.settle`, where the head of a line may not have noticed yet that the lock is its
own.  An acquisition is *at rest* (`Timeline.AtRest`) when nothing can happen to it now.

Settling brings every acquisition to rest (`Agrees.settle`), and in a timeline at rest who holds is
who stands at the head.  What this says of the table after every step is `TableInOrder`.
-/

namespace TypedVars

namespace Acquisition

/-- Whether the acquisition has a place at its lock: it waits for it or holds it. -/
def isActive (a : Acquisition) : Bool := a.status = .waiting || a.status = .held

lemma isActive_iff {a : Acquisition} :
    a.isActive = true ↔ a.status = .waiting ∨ a.status = .held := by
  simp [isActive]

/-- The acquisitions after one of them changed. -/
lemma getElem?_set {l : List Acquisition} {i : Ticket} {a : Acquisition} (ha : l[i]? = some a)
    (b : Acquisition) (j : Ticket) : (l.set i b)[j]? = if j = i then some b else l[j]? := by
  have hi : i < l.length := (List.getElem?_eq_some_iff.1 ha).1
  by_cases hj : j = i
  · rw [hj, if_pos rfl, List.getElem?_set_self hi]
  · rw [if_neg hj, List.getElem?_set_ne (Ne.symm hj)]

end Acquisition

namespace Timeline

variable {t : Timeline} {i : Ticket} {a : Acquisition}

/-- The lines of the table are those of the acquisitions that wait or hold. -/
structure Agrees (t : Timeline) : Prop where
  sound : t.locks.Sound
  line_iff : ∀ var i, i ∈ t.locks.users var ↔
    ∃ a, t.acquisitions[i]? = some a ∧ a.var = var ∧ a.isActive = true
  held_head : ∀ i a, t.acquisitions[i]? = some a → a.status = .held →
    (t.locks.users a.var).head? = some i

/-- Nothing can happen to an acquisition now: if it waits, the lock is another's and its time has
not come. -/
def AtRest (t : Timeline) (i : Ticket) : Prop :=
  ∀ a, t.acquisitions[i]? = some a → a.status = .waiting →
    (t.locks.users a.var).head? ≠ some i ∧ a.isOverdue t.now = false

lemma agrees_empty : ({} : Timeline).Agrees where
  sound := Locks.unused_empty.sound
  line_iff var i := by simp [Locks.unused_empty.users_eq_nil]
  held_head i a ha := by simp at ha

lemma Agrees.holds_iff (h : t.Agrees) (ha : t.acquisitions[i]? = some a)
    (hactive : a.isActive = true) :
    t.locks.holds i = true ↔ (t.locks.users a.var).head? = some i :=
  h.sound.holds_iff ((h.line_iff a.var i).2 ⟨a, ha, rfl, hactive⟩)

/-! ## Settling -/

/-- What can happen to one acquisition: nothing, or it is granted its lock at the head of the line,
or it gives up behind the head when its time is over. -/
lemma Agrees.settleOne_cases (h : t.Agrees) (i : Ticket) :
    (t.settleOne i = t ∧ t.AtRest i) ∨
    (∃ a, t.acquisitions[i]? = some a ∧ a.status = .waiting ∧
      (t.locks.users a.var).head? = some i ∧ t.settleOne i = t.grant i a) ∨
    (∃ a, t.acquisitions[i]? = some a ∧ a.status = .waiting ∧
      (t.locks.users a.var).head? ≠ some i ∧ a.isOverdue t.now = true ∧
      t.settleOne i = t.refuse i a) := by
  cases ha : t.acquisitions[i]? with
  | none =>
    refine .inl ⟨by simp only [Timeline.settleOne, ha], ?_⟩
    intro a ha'
    simp [ha] at ha'
  | some a =>
    by_cases hwait : a.status = .waiting
    · have hholds := h.holds_iff ha (Acquisition.isActive_iff.2 (.inl hwait))
      by_cases hhead : (t.locks.users a.var).head? = some i
      · refine .inr (.inl ⟨a, rfl, hwait, hhead, ?_⟩)
        simp [Timeline.settleOne, ha, hwait, hholds.2 hhead]
      · have hnot : t.locks.holds i = false := by
          simpa using fun hh => hhead (hholds.1 hh)
        by_cases hdue : a.isOverdue t.now = true
        · refine .inr (.inr ⟨a, rfl, hwait, hhead, hdue, ?_⟩)
          simp [Timeline.settleOne, ha, hwait, hnot, hdue]
        · refine .inl ⟨by simp [Timeline.settleOne, ha, hwait, hnot, hdue], ?_⟩
          intro b hb _
          rw [ha] at hb
          cases hb
          exact ⟨hhead, by simpa using hdue⟩
    · refine .inl ⟨by simp [Timeline.settleOne, ha, hwait], ?_⟩
      intro b hb hbwait
      rw [ha] at hb
      cases hb
      exact absurd hbwait hwait

/-- A grant changes no line. -/
lemma Agrees.grant (h : t.Agrees) (ha : t.acquisitions[i]? = some a) (hwait : a.status = .waiting)
    (hhead : (t.locks.users a.var).head? = some i) : (t.grant i a).Agrees where
  sound := h.sound
  line_iff v j := by
    simp only [Timeline.grant, Acquisition.getElem?_set ha]
    by_cases hj : j = i
    · subst hj
      simp only [h.line_iff, ha, if_true, Option.some.injEq, exists_eq_left',
        Acquisition.isActive_iff, hwait, true_or]
      simp
    · rw [if_neg hj]
      exact h.line_iff v j
  held_head j b hb hheld := by
    simp only [Timeline.grant, Acquisition.getElem?_set ha] at hb ⊢
    by_cases hj : j = i
    · rw [if_pos hj] at hb
      cases hb
      exact hj ▸ hhead
    · rw [if_neg hj] at hb
      exact h.held_head j b hb hheld

/-- A withdrawal leaves the head of every line as it was. -/
lemma Agrees.head?_abandon (h : t.Agrees) (hin : i ∈ t.locks.users a.var)
    (hhead : (t.locks.users a.var).head? ≠ some i) (v : VarId) :
    ((t.locks.abandon a.var i).users v).head? = (t.locks.users v).head? := by
  obtain ⟨-, husers⟩ := h.sound.abandon hin hhead
  rw [husers]
  by_cases hv : v = a.var
  · subst hv
    rw [if_pos rfl]
    cases hline : t.locks.users a.var with
    | nil => rfl
    | cons first rest =>
      have hfirst : first ≠ i := fun e => hhead (by rw [hline, e]; rfl)
      simp [hfirst]
  · rw [if_neg hv]

/-- A withdrawal takes one place out of one line, and it is not that of a holder. -/
lemma Agrees.refuse (h : t.Agrees) (ha : t.acquisitions[i]? = some a) (hwait : a.status = .waiting)
    (hhead : (t.locks.users a.var).head? ≠ some i) : (t.refuse i a).Agrees := by
  have hactive : a.isActive = true := Acquisition.isActive_iff.2 (.inl hwait)
  have hin : i ∈ t.locks.users a.var := (h.line_iff a.var i).2 ⟨a, ha, rfl, hactive⟩
  obtain ⟨hsound, husers⟩ := h.sound.abandon hin hhead
  have hmem : ∀ v j, j ∈ (t.locks.abandon a.var i).users v ↔ j ∈ t.locks.users v ∧ j ≠ i := by
    intro v j
    rw [husers]
    by_cases hv : v = a.var
    · simp [hv]
    · rw [if_neg hv]
      refine (and_iff_left_of_imp ?_).symm
      intro hj
      rintro rfl
      exact hv (h.sound.unique_of_mem_users hj hin)
  refine ⟨hsound, ?_, ?_⟩
  · intro v j
    simp only [Timeline.refuse, Acquisition.getElem?_set ha, hmem]
    by_cases hj : j = i
    · simp [hj, Acquisition.isActive]
    · simp only [hj, ne_eq, not_false_eq_true, and_true, if_false]
      exact h.line_iff v j
  · intro j b hb hheld
    simp only [Timeline.refuse, Acquisition.getElem?_set ha] at hb ⊢
    by_cases hj : j = i
    · rw [if_pos hj] at hb
      cases hb
      cases hheld
    · rw [if_neg hj] at hb
      rw [h.head?_abandon hin hhead, h.held_head j b hb hheld]

/-- Settling one acquisition keeps the timeline and the table in agreement, brings the acquisition
to rest, and disturbs no other that is at rest. -/
lemma Agrees.settleOne (h : t.Agrees) (i : Ticket) :
    (t.settleOne i).Agrees ∧ (t.settleOne i).AtRest i ∧
      ∀ j, t.AtRest j → (t.settleOne i).AtRest j := by
  rcases h.settleOne_cases i with ⟨heq, hrest⟩ | ⟨a, ha, hwait, hhead, heq⟩ |
    ⟨a, ha, hwait, hhead, -, heq⟩
  · rw [heq]
    exact ⟨h, hrest, fun _ hj => hj⟩
  · rw [heq]
    have hself : (t.grant i a).AtRest i := by
      intro b hb hbwait
      simp only [Timeline.grant, Acquisition.getElem?_set ha, if_true, Option.some.injEq] at hb
      subst hb
      cases hbwait
    refine ⟨h.grant ha hwait hhead, hself, ?_⟩
    intro j hj
    by_cases hij : j = i
    · exact hij ▸ hself
    · intro b hb
      simp only [Timeline.grant, Acquisition.getElem?_set ha, if_neg hij] at hb
      exact hj b hb
  · rw [heq]
    have hagrees := h.refuse ha hwait hhead
    have hin : i ∈ t.locks.users a.var :=
      (h.line_iff a.var i).2 ⟨a, ha, rfl, Acquisition.isActive_iff.2 (.inl hwait)⟩
    have hself : (t.refuse i a).AtRest i := by
      intro b hb hbwait
      simp only [Timeline.refuse, Acquisition.getElem?_set ha, if_true, Option.some.injEq] at hb
      subst hb
      cases hbwait
    refine ⟨hagrees, hself, ?_⟩
    intro j hj
    by_cases hij : j = i
    · exact hij ▸ hself
    · intro b hb hbwait
      simp only [Timeline.refuse, Acquisition.getElem?_set ha, if_neg hij] at hb ⊢
      rw [h.head?_abandon hin hhead]
      exact hj b hb hbwait

lemma Agrees.foldl_settleOne (is : List Ticket) :
    ∀ {t : Timeline}, t.Agrees → (is.foldl Timeline.settleOne t).Agrees ∧
      ∀ j, j ∈ is ∨ t.AtRest j → (is.foldl Timeline.settleOne t).AtRest j := by
  induction is with
  | nil =>
    intro t h
    exact ⟨h, fun j hj => hj.resolve_left (List.not_mem_nil)⟩
  | cons i is ih =>
    intro t h
    obtain ⟨hagrees, hself, hkeep⟩ := h.settleOne i
    obtain ⟨hend, hrest⟩ := ih hagrees
    refine ⟨hend, fun j hj => hrest j ?_⟩
    rcases hj with hj | hj
    · rcases List.mem_cons.1 hj with rfl | hj
      · exact .inr hself
      · exact .inl hj
    · exact .inr (hkeep j hj)

/-- Settling brings every acquisition to rest. -/
lemma Agrees.settle (h : t.Agrees) : t.settle.Agrees ∧ ∀ i, t.settle.AtRest i := by
  obtain ⟨hagrees, hrest⟩ := Agrees.foldl_settleOne (List.range t.acquisitions.length) h
  refine ⟨hagrees, fun i => hrest i ?_⟩
  by_cases hi : i < t.acquisitions.length
  · exact .inl (List.mem_range.2 hi)
  · refine .inr ?_
    intro a ha
    rw [List.getElem?_eq_none (Nat.not_lt.1 hi)] at ha
    cases ha

/-! ## Steps and runs -/

/-- The next ticket stands in no line yet. -/
lemma Agrees.not_mem_users (h : t.Agrees) (v : VarId) :
    t.acquisitions.length ∉ t.locks.users v := by
  intro hin
  obtain ⟨a, ha, -⟩ := (h.line_iff v _).1 hin
  simp at ha

/-- A new acquisition stands at the end of its line. -/
lemma Agrees.started (h : t.Agrees) (var : VarId) (limit : Option Nat) :
    ({ t with
      acquisitions := t.acquisitions ++ [{ var, since := t.now, limit }]
      locks := t.locks.request var t.acquisitions.length } : Timeline).Agrees := by
  have hfresh := h.not_mem_users
  obtain ⟨hsound, husers⟩ := h.sound.request hfresh var
  refine ⟨hsound, ?_, ?_⟩
  · intro v i
    rw [husers]
    rcases Nat.lt_trichotomy i t.acquisitions.length with hi | hi | hi
    · simp only [List.getElem?_append_left hi, ← h.line_iff]
      split
      · next hv => simp [hv, Nat.ne_of_lt hi]
      · rfl
    · subst hi
      simp only [List.getElem?_concat_length, Option.some.injEq, exists_eq_left',
        Acquisition.isActive]
      split
      · next hv => simp [hv]
      · next hv => simp [hfresh v, Ne.symm hv]
    · have hlen : (t.acquisitions ++
          [({ var, since := t.now, limit } : Acquisition)]).length ≤ i := by
        rw [List.length_append, List.length_singleton]
        exact hi
      have hnot : i ∉ t.locks.users v := by
        intro hin
        obtain ⟨a, ha, -⟩ := (h.line_iff v i).1 hin
        rw [List.getElem?_eq_none (Nat.le_of_lt hi)] at ha
        cases ha
      rw [List.getElem?_eq_none hlen]
      split
      · next hv => simpa [hv ▸ hnot] using Nat.ne_of_gt hi
      · simpa using hnot
  · intro i a ha hheld
    simp only [husers]
    by_cases hi : i < t.acquisitions.length
    · rw [List.getElem?_append_left hi] at ha
      have hhead := h.held_head i a ha hheld
      split
      · next hv => simp [← hv, hhead]
      · exact hhead
    · -- the new acquisition does not hold yet
      rw [List.getElem?_append_right (Nat.not_lt.1 hi)] at ha
      have hnew := List.mem_singleton.1 (List.mem_of_getElem? ha)
      rw [hnew] at hheld
      cases hheld

/-- A holder that lets go leaves the head of its line. -/
lemma Agrees.released (h : t.Agrees) (ha : t.acquisitions[i]? = some a) (hheld : a.status = .held) :
    ({ t with
      acquisitions := t.acquisitions.set i { a with status := .released }
      locks := t.locks.release a.var i } : Timeline).Agrees := by
  have hhead := h.held_head i a ha hheld
  have hin := List.mem_of_mem_head? hhead
  obtain ⟨hsound, husers⟩ := h.sound.release hhead
  refine ⟨hsound, ?_, ?_⟩
  · intro v j
    simp only [Acquisition.getElem?_set ha, husers]
    by_cases hj : j = i
    · subst hj
      simp only [if_true, Option.some.injEq, exists_eq_left', Acquisition.isActive]
      by_cases hv : v = a.var
      · simp [hv]
      · simp only [if_neg hv]
        simpa using fun hin' => hv (h.sound.unique_of_mem_users hin' hin)
    · rw [if_neg hj, ← h.line_iff]
      by_cases hv : v = a.var <;> simp [hv, hj]
  · intro j b hb hbheld
    simp only [Acquisition.getElem?_set ha, husers] at hb ⊢
    by_cases hj : j = i
    · rw [if_pos hj] at hb
      cases hb
      cases hbheld
    · rw [if_neg hj] at hb
      have hbhead := h.held_head j b hb hbheld
      have hv : b.var ≠ a.var := by
        intro e
        rw [e, hhead] at hbhead
        exact hj (Option.some.inj hbhead).symm
      rw [if_neg hv, hbhead]

/-- The timeline and its table agree, and nothing is left that can happen now. -/
structure Quiet (t : Timeline) : Prop where
  agrees : t.Agrees
  atRest : ∀ i, t.AtRest i

lemma quiet_empty : ({} : Timeline).Quiet := ⟨agrees_empty, fun i a ha => by simp at ha⟩

lemma Quiet.step (h : t.Quiet) (s : LockStep) : (t.step s).Quiet := by
  cases s with
  | acquire var limit =>
    obtain ⟨hagrees, hrest⟩ := (h.agrees.started var limit).settle
    exact ⟨hagrees, hrest⟩
  | release ticket =>
    simp only [Timeline.step, Timeline.release]
    cases ha : t.acquisitions[ticket]? with
    | none => exact h
    | some a =>
      by_cases hheld : a.status = .held
      · obtain ⟨hagrees, hrest⟩ := (h.agrees.released ha hheld).settle
        simp only [hheld, if_true]
        exact ⟨hagrees, hrest⟩
      · simp only [hheld, if_false]
        exact h
  | advance ms =>
    have hlater : ({ t with now := t.now + ms } : Timeline).Agrees :=
      ⟨h.agrees.sound, h.agrees.line_iff, h.agrees.held_head⟩
    exact ⟨hlater.settle.1, hlater.settle.2⟩

lemma Quiet.run (h : t.Quiet) (steps : List LockStep) : (t.run steps).Quiet := by
  induction steps generalizing t with
  | nil => exact h
  | cons s rest ih => exact ih (h.step s)

/-! ## What a quiet timeline says of its table -/

/-- Somebody in a line of a quiet timeline: then the head of the line holds. -/
lemma Quiet.exists_held (h : t.Quiet) {var : VarId} (hne : t.locks.users var ≠ []) :
    ∃ (i : Ticket) (a : Acquisition),
      t.acquisitions[i]? = some a ∧ a.var = var ∧ a.status = .held := by
  obtain ⟨i, hhead⟩ : ∃ i, (t.locks.users var).head? = some i := by
    cases hline : t.locks.users var with
    | nil => exact absurd hline hne
    | cons i rest => exact ⟨i, rfl⟩
  obtain ⟨a, ha, rfl, hactive⟩ := (h.agrees.line_iff var i).1 (List.mem_of_mem_head? hhead)
  refine ⟨i, a, ha, rfl, ?_⟩
  rcases Acquisition.isActive_iff.1 hactive with hwait | hheld
  · exact absurd hhead (h.atRest i a ha hwait).1
  · exact hheld

/-- The variables that some acquisition waits for or holds, each once. -/
def activeVars (t : Timeline) : List VarId :=
  ((t.acquisitions.filter (·.isActive)).map (·.var)).dedup

lemma mem_activeVars {var : VarId} :
    var ∈ t.activeVars ↔ ∃ a ∈ t.acquisitions, a.var = var ∧ a.isActive = true := by
  simp only [activeVars, List.mem_dedup, List.mem_map, List.mem_filter]
  refine exists_congr fun a => ⟨?_, ?_⟩
  · rintro ⟨⟨hmem, hactive⟩, hvar⟩
    exact ⟨hmem, hvar, hactive⟩
  · rintro ⟨hmem, hvar, hactive⟩
    exact ⟨⟨hmem, hactive⟩, hvar⟩

lemma Agrees.users_ne_nil_iff (h : t.Agrees) {var : VarId} :
    t.locks.users var ≠ [] ↔ ∃ a ∈ t.acquisitions, a.var = var ∧ a.isActive = true := by
  constructor
  · intro hne
    obtain ⟨i, hi⟩ := List.exists_mem_of_ne_nil _ hne
    obtain ⟨a, ha, hvar, hactive⟩ := (h.line_iff var i).1 hi
    exact ⟨a, List.mem_of_getElem? ha, hvar, hactive⟩
  · rintro ⟨a, ha, hvar, hactive⟩
    obtain ⟨i, hi⟩ := List.mem_iff_getElem?.1 ha
    exact List.ne_nil_of_mem ((h.line_iff var i).2 ⟨a, hi, hvar, hactive⟩)

/-- A table in order: what it holds is what the acquisitions are doing. -/
structure TableInOrder (t : Timeline) : Prop where
  /-- At most one acquisition holds a variable. -/
  one_holder : ∀ (i j : Ticket) (a b : Acquisition), t.acquisitions[i]? = some a →
    t.acquisitions[j]? = some b → a.status = .held → b.status = .held → a.var = b.var → i = j
  /-- A variable that nobody holds has nobody waiting for it. -/
  free_unawaited : ∀ var, (∀ a ∈ t.acquisitions, a.var = var → a.status ≠ .held) →
    ∀ a ∈ t.acquisitions, a.var = var → a.status ≠ .waiting
  /-- A variable has an entry exactly when somebody holds it or waits for it. -/
  entry_iff : ∀ var, var ∈ t.locks.table.map Prod.fst ↔
    ∃ a ∈ t.acquisitions, a.var = var ∧ (a.status = .waiting ∨ a.status = .held)
  /-- The size of the table is the number of variables held or waited for. -/
  size_eq : t.locks.size = t.activeVars.length
  /-- The table is empty exactly when nobody holds or waits. -/
  isEmpty_iff : t.locks.isEmpty = true ↔
    ∀ a ∈ t.acquisitions, a.status ≠ .waiting ∧ a.status ≠ .held

/-- After any acquisitions, releases and passing of time the lock table is in order, whatever the
time limits were and in whatever order they ran out. -/
theorem run_tableInOrder (steps : List LockStep) : (({} : Timeline).run steps).TableInOrder := by
  have h := quiet_empty.run steps
  set t := ({} : Timeline).run steps
  have hentry : ∀ var, var ∈ t.locks.table.map Prod.fst ↔
      ∃ a ∈ t.acquisitions, a.var = var ∧ a.isActive = true := fun var =>
    h.agrees.sound.mem_table_iff.trans h.agrees.users_ne_nil_iff
  refine ⟨?_, ?_, ?_, ?_, ?_⟩
  · intro i j a b ha hb haheld hbheld hvar
    have hi := h.agrees.held_head i a ha haheld
    have hj := h.agrees.held_head j b hb hbheld
    rw [hvar, hj] at hi
    exact (Option.some.inj hi).symm
  · intro var hfree a ha hvar hwait
    have hne := h.agrees.users_ne_nil_iff.2
      ⟨a, ha, hvar, Acquisition.isActive_iff.2 (.inl hwait)⟩
    obtain ⟨i, b, hb, hbvar, hheld⟩ := h.exists_held hne
    exact hfree b (List.mem_of_getElem? hb) hbvar hheld
  · intro var
    simp only [hentry, Acquisition.isActive_iff]
  · have hperm : (t.locks.table.map Prod.fst).Perm t.activeVars :=
      (List.perm_ext_iff_of_nodup h.agrees.sound.keys (List.nodup_dedup _)).2
        fun var => (hentry var).trans mem_activeVars.symm
    rw [← hperm.length_eq, List.length_map, Locks.size]
  · rw [Locks.isEmpty, List.isEmpty_iff, ← List.map_eq_nil_iff (f := Prod.fst),
      List.eq_nil_iff_forall_not_mem]
    simp only [hentry, not_exists, not_and, Acquisition.isActive_iff, not_or]
    exact ⟨fun hno a ha => hno a.var a ha rfl, fun hno _ a ha _ => hno a ha⟩

end Timeline

end TypedVars
