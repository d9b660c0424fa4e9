import Mathlib.Data.List.Nodup
import Mathlib.Tactic.Common
import TypedVars.Lock.Table
import TypedVars.Lookup

/-!
# What a lock table says about its users

The tickets that use a lock stand in one line, `Mutex.users`: the holder first, then the queue.  A
table is *sound* (`Locks.Sound`) when the three things that are kept apart in it agree: no two
variables share a lock, the references to a lock are those of the tickets in its line, and an entry
stands for a lock with somebody in its line.

All that happens to locks is then told by `Locks.users`, the line of each variable: a request goes
to its end (`users_request_self`), the holder leaves it at its head and one who gives up from
anywhere (`users_release_self`, `users_abandon_self`), and the lines of the other variables stay.
The reference count of a lock in an entry is one more than the length of its line
(`references_eq`), which is why counting finds the idle locks and no others.
-/

namespace TypedVars

namespace Mutex

/-- The tickets that use a lock: the holder and then the queue. -/
def users (m : Mutex) : List Ticket := m.holder.toList ++ m.queue

/-- Nobody is twice at a lock, and nobody waits for a free one. -/
structure Sound (m : Mutex) : Prop where
  nodup : m.users.Nodup
  free : m.holder = none → m.queue = []

@[simp] lemma users_unused : ({} : Mutex).users = [] := rfl

lemma sound_unused : ({} : Mutex).Sound := ⟨by simp, fun _ => rfl⟩

lemma Sound.head?_users {m : Mutex} (h : m.Sound) : m.users.head? = m.holder := by
  unfold users
  cases hh : m.holder with
  | none => simp [h.free hh]
  | some t => simp

/-- A lock that nobody uses is as good as new. -/
lemma eq_unused {m : Mutex} (h : m.users = []) : m = {} := by
  obtain ⟨holder, queue⟩ := m
  obtain ⟨hholder, hqueue⟩ := List.append_eq_nil_iff.1 h
  cases holder with
  | none => exact congrArg _ hqueue
  | some t => simp at hholder

lemma users_join {m : Mutex} (h : m.Sound) (t : Ticket) : (m.join t).users = m.users ++ [t] := by
  unfold users join
  cases hh : m.holder with
  | none => simp [h.free hh]
  | some t' => simp

lemma Sound.join {m : Mutex} (h : m.Sound) {t : Ticket} (ht : t ∉ m.users) : (m.join t).Sound where
  nodup := by
    rw [users_join h, List.nodup_append]
    refine ⟨h.nodup, List.nodup_singleton t, ?_⟩
    intro a ha b hb
    rw [List.mem_singleton.1 hb]
    exact fun e => ht (e ▸ ha)
  free := by
    unfold Mutex.join
    cases m.holder <;> simp

lemma users_pass (m : Mutex) : m.pass.users = m.queue := by
  unfold users pass
  cases m.queue <;> simp

lemma Sound.pass {m : Mutex} (h : m.Sound) : m.pass.Sound where
  nodup := by
    rw [users_pass]
    exact (List.nodup_append.1 h.nodup).2.1
  free := by
    unfold Mutex.pass
    cases m.queue <;> simp

/-- When the holder lets go, the line is the one without it. -/
lemma users_pass_of_holder {m : Mutex} (h : m.Sound) {t : Ticket} (ht : m.holder = some t) :
    m.pass.users = m.users.filter (· ≠ t) := by
  have hu : m.users = t :: m.queue := by simp [users, ht]
  have hnd : (t :: m.queue).Nodup := hu ▸ h.nodup
  have hq : ∀ a ∈ m.queue, decide (a ≠ t) = true := by
    intro a ha
    exact decide_eq_true fun e => (List.nodup_cons.1 hnd).1 (e ▸ ha)
  rw [users_pass, hu, List.filter_cons_of_neg (by simp), List.filter_eq_self.2 hq]

/-- When a waiting ticket gives up, the line is the one without it. -/
lemma users_quit {m : Mutex} {t : Ticket} (ht : m.holder ≠ some t) :
    (m.quit t).users = m.users.filter (· ≠ t) := by
  unfold users quit
  cases hh : m.holder with
  | none => simp
  | some t' =>
    have hne : t' ≠ t := fun e => ht (hh.trans (congrArg some e))
    simp [hne]

lemma Sound.quit {m : Mutex} (h : m.Sound) {t : Ticket} (ht : m.holder ≠ some t) :
    (m.quit t).Sound where
  nodup := by
    rw [users_quit ht]
    exact h.nodup.filter _
  free hh := by
    simp [Mutex.quit, h.free hh]

end Mutex

namespace Locks

variable {l : Locks} {var : VarId} {id : LockId} {t : Ticket}

/-- The tickets that use the lock of a variable: the holder and then the queue. -/
def users (l : Locks) (var : VarId) : List Ticket := (l.mutex var).users

/-- The table, the references and the states of the locks agree. -/
structure Linked (l : Locks) : Prop where
  keys : (l.table.map Prod.fst).Nodup
  ids : (l.table.map Prod.snd).Nodup
  tickets : (l.handles.map Prod.fst).Nodup
  known : ∀ var id, (var, id) ∈ l.table → id < l.made.length
  mutexes : ∀ var, (l.mutex var).Sound
  handle_iff : ∀ var id, (var, id) ∈ l.table → ∀ t, (t, id) ∈ l.handles ↔ t ∈ l.users var
  listed : ∀ t id, (t, id) ∈ l.handles → ∃ var, (var, id) ∈ l.table

/-- Besides, every entry is in use. -/
structure Sound (l : Locks) : Prop extends Linked l where
  busy : ∀ var id, (var, id) ∈ l.table → l.users var ≠ []

/-- No entry, and nobody who refers to a lock. -/
structure Unused (l : Locks) : Prop where
  table : l.table = []
  handles : l.handles = []

lemma unused_empty : ({} : Locks).Unused := ⟨rfl, rfl⟩

/-- Where nobody uses a lock there is no entry, and nobody holds one. -/
lemma Unused.released (h : l.Unused) :
    l.isEmpty = true ∧ ∀ t, l.holds t = false := by
  refine ⟨?_, fun t => ?_⟩
  · rw [isEmpty, h.table]
    rfl
  · rw [holds, h.handles]
    rfl

/-! ## The lock of a variable -/

lemma mutex_of_not_mem (h : ∀ id, (var, id) ∉ l.table) : l.mutex var = {} := by
  have hnone : l.table.lookup var = none := by
    rw [List.lookup_eq_none_iff]
    intro p hp
    simp only [bne_iff_ne, ne_eq]
    exact fun e => h p.2 (e ▸ hp)
  simp [mutex, hnone]

lemma Linked.getElem?_made (h : l.Linked) (hv : (var, id) ∈ l.table) :
    l.made[id]? = some (l.mutex var) := by
  have hlt := h.known var id hv
  simp [mutex, lookup_of_mem h.keys hv, List.getElem?_eq_getElem hlt]

lemma Linked.unique_var (h : l.Linked) {var' : VarId} (hv : (var, id) ∈ l.table)
    (hv' : (var', id) ∈ l.table) : var = var' :=
  congrArg Prod.fst (List.inj_on_of_nodup_map h.ids hv hv' rfl)

lemma Linked.unique_id (h : l.Linked) {id' : LockId} (hv : (var, id) ∈ l.table)
    (hv' : (var, id') ∈ l.table) : id = id' :=
  congrArg Prod.snd (List.inj_on_of_nodup_map h.keys hv hv' rfl)

/-- One who uses the lock of a variable refers to it. -/
lemma Linked.exists_of_mem_users (h : l.Linked) (ht : t ∈ l.users var) :
    ∃ id, (var, id) ∈ l.table ∧ (t, id) ∈ l.handles := by
  by_contra hno
  have hnot : ∀ id, (var, id) ∉ l.table := fun id hv =>
    hno ⟨id, hv, (h.handle_iff var id hv t).2 ht⟩
  simp [users, mutex_of_not_mem hnot] at ht

/-- Nobody uses the locks of two variables. -/
lemma Linked.unique_of_mem_users (h : l.Linked) {var' : VarId} (ht : t ∈ l.users var)
    (ht' : t ∈ l.users var') : var = var' := by
  obtain ⟨id, hv, hh⟩ := h.exists_of_mem_users ht
  obtain ⟨id', hv', hh'⟩ := h.exists_of_mem_users ht'
  have hid : id = id' := congrArg Prod.snd (List.inj_on_of_nodup_map h.tickets hh hh' rfl)
  exact h.unique_var hv (hid ▸ hv')

/-- A ticket holds its lock when it is the first in the line. -/
lemma Linked.holds_iff (h : l.Linked) (ht : t ∈ l.users var) :
    l.holds t = true ↔ (l.users var).head? = some t := by
  obtain ⟨id, hv, hh⟩ := h.exists_of_mem_users ht
  simp [holds, lookup_of_mem h.tickets hh, h.getElem?_made hv, users, (h.mutexes var).head?_users]

/-- The table itself is one reference to a lock, and each ticket in the line is another. -/
lemma Linked.references_eq (h : l.Linked) (hv : (var, id) ∈ l.table) :
    l.references id = 1 + l.handles.countP (·.2 = id) := by
  have hone : l.table.countP (·.2 = id) = (l.table.map Prod.snd).count id := by
    rw [List.count, List.countP_map]
    exact List.countP_congr fun e _ => by simp
  rw [references, hone, List.count_eq_one_of_mem h.ids (List.mem_map.2 ⟨_, hv, rfl⟩)]

/-- Only the table refers to a lock exactly when nobody is in its line. -/
lemma Linked.references_eq_one_iff (h : l.Linked) (hv : (var, id) ∈ l.table) :
    l.references id = 1 ↔ l.users var = [] := by
  rw [h.references_eq hv, Nat.add_eq_left, List.countP_eq_zero]
  constructor
  · intro hno
    apply List.eq_nil_iff_forall_not_mem.2
    intro t ht
    have hh := (h.handle_iff var id hv t).2 ht
    simpa using hno _ hh
  · rintro hnil ⟨t, id'⟩ hh hid
    have hid' : id' = id := by simpa using hid
    have := (h.handle_iff var id hv t).1 (hid' ▸ hh)
    simp [hnil] at this

/-! ## What each step does to the lines -/

lemma Unused.linked (h : l.Unused) : l.Linked where
  keys := by simp [h.table]
  ids := by simp [h.table]
  tickets := by simp [h.handles]
  known := by simp [h.table]
  mutexes var := by
    rw [mutex_of_not_mem (by simp [h.table])]
    exact Mutex.sound_unused
  handle_iff := by simp [h.table]
  listed := by simp [h.handles]

lemma Unused.sound (h : l.Unused) : l.Sound := ⟨h.linked, by simp [h.table]⟩

lemma Unused.users_eq_nil (h : l.Unused) (var : VarId) : l.users var = [] := by
  rw [users, mutex_of_not_mem (by simp [h.table]), Mutex.users_unused]

/-- A lock changes its state and its tickets, and each of these is at the lock afterwards exactly
when it refers to it.  Requests, releases and withdrawals are all of this kind. -/
lemma Linked.replace (h : l.Linked) (hv : (var, id) ∈ l.table) {f : Mutex → Mutex}
    (hf : (f (l.mutex var)).Sound) {handles : List (Ticket × LockId)}
    (hnd : (handles.map Prod.fst).Nodup)
    (hself : ∀ t, (t, id) ∈ handles ↔ t ∈ (f (l.mutex var)).users)
    (hother : ∀ t id', id' ≠ id → ((t, id') ∈ handles ↔ (t, id') ∈ l.handles)) :
    ({ l.modify id f with handles } : Locks).Linked ∧
      ({ l.modify id f with handles } : Locks).mutex var = f (l.mutex var) ∧
      ∀ v, v ≠ var → ({ l.modify id f with handles } : Locks).mutex v = l.mutex v := by
  have hat : ∀ v id', (v, id') ∈ l.table →
      ({ l.modify id f with handles } : Locks).mutex v =
        if v = var then f (l.mutex var) else l.mutex v := by
    intro v id' hv'
    have hmade := h.getElem?_made hv'
    have hlook := lookup_of_mem h.keys hv'
    by_cases hvar : v = var
    · subst hvar
      have hid : id' = id := h.unique_id hv' hv
      subst hid
      rw [mutex, if_pos rfl]
      simp only [modify, hlook, Option.bind_some, List.getElem?_modify_eq, hmade]
      rfl
    · have hid : id ≠ id' := fun e => hvar (h.unique_var hv' (e ▸ hv))
      rw [mutex, if_neg hvar]
      simp only [modify, hlook, Option.bind_some, List.getElem?_modify_ne f l.made hid, hmade]
      rfl
  have hself' : ({ l.modify id f with handles } : Locks).mutex var = f (l.mutex var) := by
    rw [hat var id hv, if_pos rfl]
  have hother' : ∀ v, v ≠ var →
      ({ l.modify id f with handles } : Locks).mutex v = l.mutex v := by
    intro v hvar
    by_cases hin : ∃ id', (v, id') ∈ l.table
    · obtain ⟨id', hv'⟩ := hin
      rw [hat v id' hv', if_neg hvar]
    · push Not at hin
      rw [mutex_of_not_mem hin, mutex_of_not_mem (l := { l.modify id f with handles }) hin]
  refine ⟨⟨h.keys, h.ids, hnd, ?_, ?_, ?_, ?_⟩, hself', hother'⟩
  · intro v id' hv'
    simpa [modify] using h.known v id' hv'
  · intro v
    by_cases hvar : v = var
    · rw [hvar, hself']
      exact hf
    · rw [hother' v hvar]
      exact h.mutexes v
  · intro v id' hv' t
    by_cases hvar : v = var
    · subst hvar
      rw [h.unique_id hv' hv, users, hself']
      exact hself t
    · have hid : id' ≠ id := fun e => hvar (h.unique_var hv' (e ▸ hv))
      rw [users, hother' v hvar]
      exact (hother t id' hid).trans (h.handle_iff v id' hv' t)
  · intro t id' hh
    by_cases hid : id' = id
    · exact ⟨var, hid ▸ hv⟩
    · exact h.listed t id' ((hother t id' hid).1 hh)

/-! ### Requests -/

/-- A new entry has a lock that nobody uses. -/
lemma Linked.ensure (h : l.Linked) (var : VarId) :
    (l.ensure var).Linked ∧ (∃ id, (var, id) ∈ (l.ensure var).table) ∧
      (l.ensure var).handles = l.handles ∧ (∀ v, (l.ensure var).mutex v = l.mutex v) ∧
      ∀ e, e ∈ l.table → e ∈ (l.ensure var).table := by
  unfold Locks.ensure
  cases hlook : l.table.lookup var with
  | some id => exact ⟨h, ⟨id, mem_of_lookup hlook⟩, rfl, fun _ => rfl, fun _ he => he⟩
  | none =>
    have hfresh : ∀ id, (var, id) ∉ l.table := by
      intro id hv
      simpa using List.lookup_eq_none_iff.1 hlook _ hv
    have hmutex : ∀ v, ({ l with
        table := (var, l.made.length) :: l.table, made := l.made ++ [{}] } : Locks).mutex v =
          l.mutex v := by
      intro v
      by_cases hvar : v = var
      · subst hvar
        rw [mutex_of_not_mem hfresh]
        simp [mutex]
      · by_cases hin : ∃ id', (v, id') ∈ l.table
        · obtain ⟨id', hv'⟩ := hin
          have hlt := h.known v id' hv'
          simp [mutex, List.lookup_cons, beq_false_of_ne hvar, lookup_of_mem h.keys hv',
            List.getElem?_append_left hlt]
        · push Not at hin
          rw [mutex_of_not_mem hin, mutex_of_not_mem]
          intro id' hv'
          rcases List.mem_cons.1 hv' with e | hv'
          · exact hvar (congrArg Prod.fst e)
          · exact hin id' hv'
    refine ⟨⟨?_, ?_, h.tickets, ?_, ?_, ?_, ?_⟩, ⟨_, List.mem_cons_self⟩, rfl, hmutex,
      fun _ he => List.mem_cons_of_mem _ he⟩
    · refine List.nodup_cons.2 ⟨?_, h.keys⟩
      rintro hkey
      obtain ⟨⟨v, id⟩, hv, rfl⟩ := List.mem_map.1 hkey
      exact hfresh id hv
    · refine List.nodup_cons.2 ⟨?_, h.ids⟩
      rintro hkey
      obtain ⟨⟨v, id⟩, hv, hid⟩ := List.mem_map.1 hkey
      exact Nat.ne_of_lt (h.known v id hv) hid
    · intro v id' hv'
      simp only [List.length_append, List.length_singleton]
      rcases List.mem_cons.1 hv' with e | hv'
      · cases e
        exact Nat.lt_succ_self _
      · exact Nat.lt_succ_of_lt (h.known v id' hv')
    · intro v
      rw [hmutex]
      exact h.mutexes v
    · intro v id' hv' t
      rw [users, hmutex]
      rcases List.mem_cons.1 hv' with e | hv'
      · cases e
        rw [mutex_of_not_mem hfresh]
        simp only [Mutex.users_unused, List.not_mem_nil, iff_false]
        intro hh
        obtain ⟨v', hv'⟩ := h.listed t _ hh
        exact Nat.lt_irrefl _ (h.known v' _ hv')
      · exact h.handle_iff v id' hv' t
    · intro t id' hh
      obtain ⟨v, hv⟩ := h.listed t id' hh
      exact ⟨v, List.mem_cons_of_mem _ hv⟩

/-- A request goes to the end of the line; it stands in no line before. -/
lemma Linked.request (h : l.Linked) (var : VarId) (ht : t ∉ l.handles.map Prod.fst) :
    (l.request var t).Linked ∧ (l.request var t).mutex var = (l.mutex var).join t ∧
      (∀ v, v ≠ var → (l.request var t).mutex v = l.mutex v) ∧
      (l.request var t).table = (l.ensure var).table ∧
      ∃ id, (l.request var t).handles = (t, id) :: l.handles := by
  obtain ⟨hl, ⟨id, hv⟩, hhandles, hmutex, -⟩ := h.ensure var
  have hlook := lookup_of_mem hl.keys hv
  have hreq : l.request var t =
      { (l.ensure var).modify id (·.join t) with
        handles := (t, id) :: (l.ensure var).handles } := by
    simp only [Locks.request, hlook]
  have hout : t ∉ (l.mutex var).users := by
    intro hin
    obtain ⟨id', -, hh⟩ := h.exists_of_mem_users hin
    exact ht (List.mem_map.2 ⟨_, hh, rfl⟩)
  rw [← hmutex] at hout
  have hnd : (((t, id) :: (l.ensure var).handles).map Prod.fst).Nodup := by
    rw [hhandles]
    exact List.nodup_cons.2 ⟨ht, h.tickets⟩
  have hself : ∀ t', (t', id) ∈ (t, id) :: (l.ensure var).handles ↔
      t' ∈ (((l.ensure var).mutex var).join t).users := by
    intro t'
    rw [Mutex.users_join (hl.mutexes var), List.mem_append, List.mem_singleton, List.mem_cons,
      hl.handle_iff var id hv t', users, or_comm]
    simp
  have hother : ∀ t' id', id' ≠ id →
      ((t', id') ∈ (t, id) :: (l.ensure var).handles ↔ (t', id') ∈ (l.ensure var).handles) := by
    intro t' id' hid
    rw [List.mem_cons]
    exact or_iff_right fun e => hid (congrArg Prod.snd e)
  obtain ⟨hlinked, hmutexself, hmutexother⟩ := hl.replace hv (f := fun m => m.join t)
    ((hl.mutexes var).join hout) hnd hself hother
  refine ⟨hreq ▸ hlinked, ?_, ?_, ?_, id, ?_⟩
  · rw [hreq, hmutexself, hmutex]
  · intro v hne
    rw [hreq, hmutexother v hne, hmutex]
  · rw [hreq]
    rfl
  · rw [hreq, hhandles]

/-! ### Releases and withdrawals -/

/-- Counting the references finds out whether anybody is in the line. -/
lemma Linked.removeIfIdle_eq (h : l.Linked) (var : VarId) :
    l.removeIfIdle var =
      if l.users var = [] then { l with table := l.table.filter (·.1 ≠ var) } else l := by
  unfold Locks.removeIfIdle
  cases hlook : l.table.lookup var with
  | none =>
    have hall : ∀ e ∈ l.table, decide (e.1 ≠ var) = true := by
      intro e he
      have := List.lookup_eq_none_iff.1 hlook e he
      exact decide_eq_true fun heq => by simp [heq] at this
    simp only [List.filter_eq_self.2 hall, ite_self]
  | some id => simp only [h.references_eq_one_iff (mem_of_lookup hlook)]

lemma Linked.mutex_removeIfIdle (h : l.Linked) (var v : VarId) :
    (l.removeIfIdle var).mutex v = l.mutex v := by
  rw [h.removeIfIdle_eq]
  split
  · next hnil =>
    by_cases hvar : v = var
    · subst hvar
      rw [Mutex.eq_unused hnil, mutex_of_not_mem]
      simp
    · simp only [mutex, lookup_filter_of_ne hvar]
  · rfl

lemma Linked.mem_table_removeIfIdle (h : l.Linked) (var v : VarId) (id : LockId) :
    (v, id) ∈ (l.removeIfIdle var).table ↔ (v, id) ∈ l.table ∧ (v = var → l.users var ≠ []) := by
  rw [h.removeIfIdle_eq]
  split
  · next hnil => simp [hnil]
  · next hne => simp [hne]

lemma handles_removeIfIdle (l : Locks) (var : VarId) :
    (l.removeIfIdle var).handles = l.handles := by
  unfold removeIfIdle
  split
  · split <;> rfl
  · rfl

/-- The entry that goes is one with nobody in its line, so the rest fits together as before. -/
lemma Linked.removeIfIdle (h : l.Linked) (var : VarId) : (l.removeIfIdle var).Linked where
  keys := by
    rw [h.removeIfIdle_eq]
    split
    · exact h.keys.sublist (List.filter_sublist.map _)
    · exact h.keys
  ids := by
    rw [h.removeIfIdle_eq]
    split
    · exact h.ids.sublist (List.filter_sublist.map _)
    · exact h.ids
  tickets := by
    rw [handles_removeIfIdle]
    exact h.tickets
  known v id hv := by
    rw [h.removeIfIdle_eq]
    have := h.known v id ((h.mem_table_removeIfIdle var v id).1 hv).1
    split <;> exact this
  mutexes v := by
    rw [h.mutex_removeIfIdle]
    exact h.mutexes v
  handle_iff v id hv t := by
    rw [handles_removeIfIdle, users, h.mutex_removeIfIdle]
    exact h.handle_iff v id ((h.mem_table_removeIfIdle var v id).1 hv).1 t
  listed t id hh := by
    rw [handles_removeIfIdle] at hh
    obtain ⟨v, hv⟩ := h.listed t id hh
    refine ⟨v, (h.mem_table_removeIfIdle var v id).2 ⟨hv, ?_⟩⟩
    rintro rfl
    exact List.ne_nil_of_mem ((h.handle_iff v id hv t).1 hh)

/-- One who is done with a lock leaves its line, and the others stay as they are. -/
lemma Linked.leave (h : l.Linked) {f : Mutex → Mutex} (ht : t ∈ l.users var)
    (hf : (f (l.mutex var)).Sound)
    (husers : (f (l.mutex var)).users = (l.users var).filter (· ≠ t)) :
    (l.leave var t f).Linked ∧ (l.leave var t f).mutex var = f (l.mutex var) ∧
      (∀ v, v ≠ var → (l.leave var t f).mutex v = l.mutex v) ∧
      (l.leave var t f).handles = l.handles.filter (·.1 ≠ t) ∧
      ∀ v id, (v, id) ∈ (l.leave var t f).table ↔
        (v, id) ∈ l.table ∧ (v = var → f (l.mutex var) ≠ {}) := by
  obtain ⟨id, hv, hh⟩ := h.exists_of_mem_users ht
  have hleave : l.leave var t f =
      Locks.removeIfIdle { l.modify id f with handles := l.handles.filter (·.1 ≠ t) } var := by
    simp only [Locks.leave, lookup_of_mem h.tickets hh]
  have hmem : ∀ t' id', (t', id') ∈ l.handles.filter (·.1 ≠ t) ↔
      (t', id') ∈ l.handles ∧ t' ≠ t := by
    intro t' id'
    simp
  have hnd : ((l.handles.filter (·.1 ≠ t)).map Prod.fst).Nodup :=
    h.tickets.sublist (List.filter_sublist.map _)
  have hself : ∀ t', (t', id) ∈ l.handles.filter (·.1 ≠ t) ↔ t' ∈ (f (l.mutex var)).users := by
    intro t'
    rw [hmem, husers, h.handle_iff var id hv t', List.mem_filter, decide_eq_true_iff]
  have hother : ∀ t' id', id' ≠ id →
      ((t', id') ∈ l.handles.filter (·.1 ≠ t) ↔ (t', id') ∈ l.handles) := by
    intro t' id' hid
    rw [hmem]
    apply and_iff_left_of_imp
    intro hh'
    rintro rfl
    exact hid (congrArg Prod.snd (List.inj_on_of_nodup_map h.tickets hh' hh rfl))
  obtain ⟨hlinked, hmutexself, hmutexother⟩ := h.replace hv hf hnd hself hother
  refine ⟨hleave ▸ hlinked.removeIfIdle var, ?_, ?_, ?_, ?_⟩
  · rw [hleave, hlinked.mutex_removeIfIdle, hmutexself]
  · intro v hne
    rw [hleave, hlinked.mutex_removeIfIdle, hmutexother v hne]
  · rw [hleave, handles_removeIfIdle]
  · intro v id'
    rw [hleave, hlinked.mem_table_removeIfIdle, users, hmutexself]
    refine and_congr_right fun _ => imp_congr_right fun _ => not_congr ?_
    exact ⟨Mutex.eq_unused, fun e => by rw [e, Mutex.users_unused]⟩

/-! ## Sound tables -/

/-- The tickets that refer to a lock are those in some line. -/
lemma Linked.mem_handles_iff (h : l.Linked) :
    t ∈ l.handles.map Prod.fst ↔ ∃ var, t ∈ l.users var := by
  constructor
  · intro hin
    obtain ⟨⟨t', id⟩, hh, rfl⟩ := List.mem_map.1 hin
    obtain ⟨var, hv⟩ := h.listed t' id hh
    exact ⟨var, (h.handle_iff var id hv t').1 hh⟩
  · rintro ⟨var, ht⟩
    obtain ⟨id, -, hh⟩ := h.exists_of_mem_users ht
    exact List.mem_map.2 ⟨_, hh, rfl⟩

/-- A ticket that is in no line holds no lock. -/
lemma Linked.not_holds (h : l.Linked) (ht : ∀ var, t ∉ l.users var) : l.holds t = false := by
  have hlookup : l.handles.lookup t = none := by
    rw [List.lookup_eq_none_iff]
    intro p hp
    apply bne_iff_ne.2
    rintro rfl
    obtain ⟨var, hmem⟩ := h.mem_handles_iff.1 (List.mem_map.2 ⟨p, hp, rfl⟩)
    exact ht var hmem
  rw [holds, hlookup]
  rfl

/-- A variable has an entry exactly when somebody is in its line. -/
lemma Sound.mem_table_iff (h : l.Sound) : var ∈ l.table.map Prod.fst ↔ l.users var ≠ [] := by
  constructor
  · intro hin
    obtain ⟨⟨v, id⟩, hv, rfl⟩ := List.mem_map.1 hin
    exact h.busy v id hv
  · intro hne
    obtain ⟨t, ht⟩ := List.exists_mem_of_ne_nil _ hne
    obtain ⟨id, hv, -⟩ := h.exists_of_mem_users ht
    exact List.mem_map.2 ⟨_, hv, rfl⟩

/-- A table whose lines are all empty has no entry, and nobody refers to a lock. -/
lemma Sound.unused (h : l.Sound) (hnil : ∀ var, l.users var = []) : l.Unused where
  table := by
    apply List.eq_nil_iff_forall_not_mem.2
    intro e he
    exact h.mem_table_iff.1 (List.mem_map.2 ⟨e, he, rfl⟩) (hnil e.1)
  handles := by
    apply List.eq_nil_iff_forall_not_mem.2
    intro e he
    obtain ⟨var, ht⟩ := h.mem_handles_iff.1 (List.mem_map.2 ⟨e, he, rfl⟩)
    simp [hnil var] at ht

/-- A ticket that asks for a lock goes to the end of its line. -/
lemma Sound.request (h : l.Sound) (ht : ∀ v, t ∉ l.users v) (var : VarId) :
    (l.request var t).Sound ∧
      ∀ v, (l.request var t).users v = if v = var then l.users var ++ [t] else l.users v := by
  have hfresh : t ∉ l.handles.map Prod.fst := by
    rw [h.mem_handles_iff]
    exact fun ⟨v, hv⟩ => ht v hv
  obtain ⟨hlinked, hself, hother, htable, -⟩ := h.toLinked.request var hfresh
  have husers : ∀ v, (l.request var t).users v =
      if v = var then l.users var ++ [t] else l.users v := by
    intro v
    by_cases hvar : v = var
    · subst hvar
      rw [users, hself, Mutex.users_join (h.mutexes v), if_pos rfl, users]
    · rw [users, hother v hvar, if_neg hvar, users]
  refine ⟨⟨hlinked, ?_⟩, husers⟩
  intro v id hv
  rw [husers]
  split
  · simp
  · next hvar =>
    -- an entry that is not the one of `var` was there before the request
    rw [htable] at hv
    unfold Locks.ensure at hv
    split at hv
    · exact h.busy v id hv
    · rcases List.mem_cons.1 hv with e | hv
      · exact absurd (congrArg Prod.fst e) hvar
      · exact h.busy v id hv

/-- One who is done with a lock leaves its line, and the entry goes with the last one. -/
lemma Sound.leave (h : l.Sound) {f : Mutex → Mutex} (ht : t ∈ l.users var)
    (hf : (f (l.mutex var)).Sound)
    (husers : (f (l.mutex var)).users = (l.users var).filter (· ≠ t)) :
    (l.leave var t f).Sound ∧ ∀ v, (l.leave var t f).users v =
      if v = var then (l.users var).filter (· ≠ t) else l.users v := by
  obtain ⟨hlinked, hself, hother, -, htable⟩ := h.toLinked.leave ht hf husers
  have hline : ∀ v, (l.leave var t f).users v =
      if v = var then (l.users var).filter (· ≠ t) else l.users v := by
    intro v
    by_cases hvar : v = var
    · subst hvar
      rw [users, hself, if_pos rfl, husers]
    · rw [users, hother v hvar, if_neg hvar, users]
  refine ⟨⟨hlinked, ?_⟩, hline⟩
  intro v id hv hnil
  obtain ⟨hv, hkeep⟩ := (htable v id).1 hv
  by_cases hvar : v = var
  · subst hvar
    rw [users, hself] at hnil
    exact hkeep rfl (Mutex.eq_unused hnil)
  · rw [hline, if_neg hvar] at hnil
    exact h.busy v id hv hnil

/-- The holder that lets go leaves the head of the line. -/
lemma Sound.release (h : l.Sound) (ht : (l.users var).head? = some t) :
    (l.release var t).Sound ∧ ∀ v, (l.release var t).users v =
      if v = var then (l.users var).filter (· ≠ t) else l.users v := by
  have hholder : (l.mutex var).holder = some t := (h.mutexes var).head?_users.symm.trans ht
  exact h.leave (List.mem_of_mem_head? ht) (h.mutexes var).pass
    (Mutex.users_pass_of_holder (h.mutexes var) hholder)

/-- A ticket that gives up leaves its place behind the holder. -/
lemma Sound.abandon (h : l.Sound) (ht : t ∈ l.users var) (hne : (l.users var).head? ≠ some t) :
    (l.abandon var t).Sound ∧ ∀ v, (l.abandon var t).users v =
      if v = var then (l.users var).filter (· ≠ t) else l.users v := by
  have hholder : (l.mutex var).holder ≠ some t := by
    rw [← (h.mutexes var).head?_users]
    exact hne
  exact h.leave ht ((h.mutexes var).quit hholder) (Mutex.users_quit hholder)

end Locks

end TypedVars
