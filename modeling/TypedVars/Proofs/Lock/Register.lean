import Mathlib.Tactic.Common
import TypedVars.Proofs.Lock.Timeline

/-!
# Registers of acquisitions

A register knows the time and the acquisitions in order of arrival, and nothing else: it has no
table, no queues and no references.  Who gets a lock is decided by looking through the acquisitions
from the first to the last (`Register.grantFirst`).  It says what a timeline has to do without
saying how.

An acquisition goes on only as `AcquisitionStatus.Leads` allows, and what it asked for stays
(`Register.grows_run`): one that was refused stays refused, and one that was granted stays granted.
-/

namespace TypedVars

/-- What can become of a status. -/
inductive AcquisitionStatus.Leads : AcquisitionStatus → AcquisitionStatus → Prop
  | stay (s : AcquisitionStatus) : Leads s s
  | wait (s : AcquisitionStatus) : Leads .waiting s
  | letGo : Leads .held .released

lemma AcquisitionStatus.Leads.trans {s s' s'' : AcquisitionStatus} (h : s.Leads s')
    (h' : s'.Leads s'') : s.Leads s'' := by
  cases h with
  | stay => exact h'
  | wait => exact .wait _
  | letGo =>
    cases h'
    exact .letGo

namespace Acquisition

variable {a b c : Acquisition} {now now' : Nat} {var : VarId}

/-- Whether it waits for a variable. -/
def awaits (a : Acquisition) (var : VarId) : Bool := a.var = var && a.status = .waiting

/-- Whether it got its lock, be it that it has let it go since. -/
def isGranted (a : Acquisition) : Bool := a.status = .held || a.status = .released

/-- It gives up if its time is over while it waits. -/
def expire (a : Acquisition) (now : Nat) : Acquisition :=
  if a.status = .waiting ∧ a.isOverdue now = true then { a with status := .refused } else a

/-- What became of an acquisition: what it asked for stays and its status moves on. -/
structure Became (a b : Acquisition) : Prop where
  var : b.var = a.var
  since : b.since = a.since
  limit : b.limit = a.limit
  status : a.status.Leads b.status

/-- The acquisitions after another one has started. -/
lemma getElem?_concat (l : List Acquisition) (a : Acquisition) (i : Ticket) :
    (l ++ [a])[i]? = if i = l.length then some a else l[i]? := by
  rcases Nat.lt_trichotomy i l.length with hi | hi | hi
  · rw [if_neg (Nat.ne_of_lt hi), List.getElem?_append_left hi]
  · rw [if_pos hi, hi, List.getElem?_concat_length]
  · rw [if_neg (Nat.ne_of_gt hi), List.getElem?_eq_none (Nat.le_of_lt hi)]
    exact List.getElem?_eq_none (by rw [List.length_append]; exact hi)

lemma awaits_iff : a.awaits var = true ↔ a.var = var ∧ a.status = .waiting := by
  simp [awaits]

lemma isGranted_iff : a.isGranted = true ↔ a.status = .held ∨ a.status = .released := by
  simp [isGranted]

lemma isActive_eq_false_iff : a.isActive = false ↔ a.status = .refused ∨ a.status = .released := by
  cases h : a.status <;> simp [isActive, h]

lemma isOverdue_mono (h : a.isOverdue now = true) (hle : now ≤ now') :
    a.isOverdue now' = true := by
  cases hlimit : a.limit with
  | none => simp [isOverdue, hlimit] at h
  | some limit =>
    simp only [isOverdue, hlimit, Option.any_some, decide_eq_true_eq] at h ⊢
    exact Nat.le_trans h hle

lemma isOverdue_iff : a.isOverdue now = true ↔ ∃ limit, a.limit = some limit ∧
    a.since + limit ≤ now := by
  cases hlimit : a.limit <;> simp [isOverdue, hlimit]

lemma became_refl (a : Acquisition) : a.Became a := ⟨rfl, rfl, rfl, .stay _⟩

lemma Became.trans (h : a.Became b) (h' : b.Became c) : a.Became c :=
  ⟨h'.var.trans h.var, h'.since.trans h.since, h'.limit.trans h.limit, h.status.trans h'.status⟩

/-- A refused acquisition stays as it is. -/
lemma Became.eq_of_refused (h : a.Became b) (ha : a.status = .refused) : b = a := by
  obtain ⟨var, since, limit, status⟩ := a
  obtain ⟨var', since', limit', status'⟩ := b
  obtain ⟨hvar, hsince, hlimit, hstatus⟩ := h
  simp only at hvar hsince hlimit hstatus ha
  subst hvar hsince hlimit ha
  cases hstatus
  rfl

lemma Became.isGranted (h : a.Became b) (ha : a.isGranted = true) : b.isGranted = true := by
  obtain ⟨-, -, -, hstatus⟩ := h
  unfold Acquisition.isGranted at ha ⊢
  generalize a.status = s, b.status = s' at ha hstatus ⊢
  cases hstatus <;> simp_all

lemma Became.isActive (h : a.Became b) (ha : a.isActive = false) : b.isActive = false := by
  obtain ⟨-, -, -, hstatus⟩ := h
  unfold Acquisition.isActive at ha ⊢
  generalize a.status = s, b.status = s' at ha hstatus ⊢
  cases hstatus <;> simp_all

lemma became_expire (a : Acquisition) (now : Nat) : a.Became (a.expire now) := by
  unfold expire
  split
  · next h => exact ⟨rfl, rfl, rfl, h.1 ▸ .wait _⟩
  · exact a.became_refl

/-- One who gives up has waited for as long as it wanted; who does not, has not or does not wait. -/
lemma expire_cases (a : Acquisition) (now : Nat) :
    (a.status = .waiting ∧ a.isOverdue now = true ∧ a.expire now = { a with status := .refused }) ∨
    ((a.status = .waiting → a.isOverdue now = false) ∧ a.expire now = a) := by
  unfold expire
  split
  · next h => exact .inl ⟨h.1, h.2, rfl⟩
  · next h => exact .inr ⟨fun hwait => by simpa [hwait] using h, rfl⟩

lemma expire_of_not_waiting (h : a.status ≠ .waiting) (now : Nat) : a.expire now = a :=
  if_neg fun hw => h hw.1

/-- It has not given up before its time was over, and does not wait any longer then. -/
structure Punctual (a : Acquisition) (now : Nat) : Prop where
  timely : a.status = .waiting → a.isOverdue now = false
  overdue : a.status = .refused → a.isOverdue now = true

lemma punctual_of_isGranted (h : a.isGranted = true) (now : Nat) : a.Punctual now := by
  rcases isGranted_iff.1 h with h | h <;> constructor <;> simp [h]

lemma punctual_expire (h : a.status = .refused → a.isOverdue now = true) :
    (a.expire now).Punctual now := by
  rcases a.expire_cases now with ⟨-, hdue, heq⟩ | ⟨hdue, heq⟩
  · rw [heq]
    exact ⟨nofun, fun _ => hdue⟩
  · rw [heq]
    exact ⟨hdue, h⟩

/-- To look twice is to look the second time. -/
lemma expire_expire (a : Acquisition) (hle : now ≤ now') :
    (a.expire now).expire now' = a.expire now' := by
  rcases a.expire_cases now with ⟨hwait, hdue, heq⟩ | ⟨-, heq⟩
  · rw [heq, expire_of_not_waiting (by simp), expire, if_pos ⟨hwait, isOverdue_mono hdue hle⟩]
  · rw [heq]

end Acquisition

/-- Acquisitions in time, in order of arrival. -/
@[ext]
structure Register where
  now : Nat := 0
  entries : List Acquisition := []

namespace Register

variable {r : Register} {var : VarId} {i j : Ticket} {a b : Acquisition}

/-- The first acquisition that waits for a variable gets it. -/
def grantFirst (var : VarId) : List Acquisition → List Acquisition
  | [] => []
  | a :: rest =>
    if a.awaits var then { a with status := .held } :: rest else a :: grantFirst var rest

/-- Whether somebody holds a variable or waits for it. -/
def isTaken (r : Register) (var : VarId) : Bool := r.entries.any fun a => a.var = var && a.isActive

/-- An acquisition that starts now. -/
def newcomer (r : Register) (var : VarId) (limit : Option Nat) : Acquisition :=
  { var, since := r.now, limit, status := if r.isTaken var then .waiting else .held }

/-- An acquisition starts. -/
def acquire (r : Register) (var : VarId) (limit : Option Nat) : Register :=
  { r with entries := r.entries ++ [(r.newcomer var limit).expire r.now] }

/-- A holder lets its lock go. -/
def release (r : Register) (ticket : Ticket) : Register :=
  match r.entries[ticket]? with
  | some a =>
    if a.status = .held then
      { r with entries := (grantFirst a.var r.entries).set ticket { a with status := .released } }
    else r
  | none => r

/-- Time passes. -/
def advance (r : Register) (ms : Nat) : Register where
  now := r.now + ms
  entries := r.entries.map (·.expire (r.now + ms))

/-- Does one step. -/
def step (r : Register) : LockStep → Register
  | .acquire var limit => r.acquire var limit
  | .release ticket => r.release ticket
  | .advance ms => r.advance ms

/-- Does some steps. -/
def run (r : Register) (steps : List LockStep) : Register := steps.foldl step r

@[simp] lemma run_nil (r : Register) : r.run [] = r := rfl

@[simp] lemma run_cons (r : Register) (s : LockStep) (rest : List LockStep) :
    r.run (s :: rest) = (r.step s).run rest := rfl

lemma run_append (r : Register) (steps more : List LockStep) :
    r.run (steps ++ more) = (r.run steps).run more := List.foldl_append

/-- Time may pass in pieces. -/
lemma advance_advance (r : Register) (ms ms' : Nat) :
    (r.advance ms).advance ms' = r.advance (ms + ms') := by
  refine Register.ext (Nat.add_assoc _ _ _) ?_
  simp only [advance, List.map_map, ← Nat.add_assoc]
  exact List.map_congr_left fun a _ => a.expire_expire (Nat.le_add_right _ _)

/-! ## What a step does to each entry -/

lemma getElem?_grantFirst (var : VarId) (l : List Acquisition) (i : Ticket) :
    (grantFirst var l)[i]? = l[i]?.map fun a =>
      if l.findIdx? (·.awaits var) = some i then { a with status := .held } else a := by
  induction l generalizing i with
  | nil => rfl
  | cons a rest ih =>
    rw [grantFirst, List.findIdx?_cons]
    cases hwait : a.awaits var with
    | true => cases i <;> simp
    | false => cases i <;> simp [ih]

lemma length_grantFirst (var : VarId) (l : List Acquisition) :
    (grantFirst var l).length = l.length := by
  induction l with
  | nil => rfl
  | cons a rest ih =>
    rw [grantFirst]
    split <;> simp [ih]

/-- The first who waits is the only one whom a release serves. -/
lemma findIdx?_awaits {l : List Acquisition} (hnext : l.findIdx? (·.awaits var) = some i) :
    ∃ a, l[i]? = some a ∧ a.var = var ∧ a.status = .waiting ∧
      ∀ (j : Ticket) (b : Acquisition), j < i → l[j]? = some b → b.var = var →
        b.status ≠ .waiting := by
  obtain ⟨hi, hwait, hfirst⟩ := List.findIdx?_eq_some_iff_getElem.1 hnext
  obtain ⟨hvar, hstatus⟩ := Acquisition.awaits_iff.1 hwait
  refine ⟨_, List.getElem?_eq_getElem hi, hvar, hstatus, ?_⟩
  intro j b hj hb hbvar hbwait
  obtain ⟨hlt, rfl⟩ := List.getElem?_eq_some_iff.1 hb
  exact hfirst j hj (Acquisition.awaits_iff.2 ⟨hbvar, hbwait⟩)

/-- A release serves nobody who does not wait. -/
lemma findIdx?_awaits_ne {l : List Acquisition} (ha : l[i]? = some a)
    (hnot : a.status ≠ .waiting ∨ a.var ≠ var) : l.findIdx? (·.awaits var) ≠ some i := by
  intro hnext
  obtain ⟨b, hb, hvar, hwait, -⟩ := findIdx?_awaits hnext
  rw [ha] at hb
  cases hb
  exact hnot.elim (· hwait) (· hvar)

/-- The new entry is the last one. -/
lemma getElem?_acquire (r : Register) (var : VarId) (limit : Option Nat) (i : Ticket) :
    (r.acquire var limit).entries[i]? =
      if i = r.entries.length then some ((r.newcomer var limit).expire r.now)
      else r.entries[i]? :=
  Acquisition.getElem?_concat _ _ i

lemma release_of_not_held (h : ∀ a, r.entries[i]? = some a → a.status ≠ .held) :
    r.release i = r := by
  unfold release
  split
  · next a ha => exact if_neg (h a ha)
  · rfl

lemma release_of_held (ha : r.entries[i]? = some a) (hheld : a.status = .held) :
    r.release i =
      { r with entries := (grantFirst a.var r.entries).set i { a with status := .released } } := by
  simp only [release, ha, hheld, if_true]

/-- A holder lets go and the first who waits holds. -/
lemma getElem?_release (ha : r.entries[i]? = some a) (hheld : a.status = .held) (j : Ticket) :
    (r.release i).entries[j]? =
      if j = i then some { a with status := .released }
      else r.entries[j]?.map fun b =>
        if r.entries.findIdx? (·.awaits a.var) = some j then { b with status := .held } else b := by
  have hgrant : (grantFirst a.var r.entries)[i]? = some
      (if r.entries.findIdx? (·.awaits a.var) = some i then { a with status := .held } else a) := by
    rw [getElem?_grantFirst, ha]
    rfl
  rw [release_of_held ha hheld, Acquisition.getElem?_set hgrant, getElem?_grantFirst]

lemma length_release (r : Register) (i : Ticket) :
    (r.release i).entries.length = r.entries.length := by
  unfold release
  split
  · split
    · rw [List.length_set, length_grantFirst]
    · rfl
  · rfl

lemma getElem?_advance (r : Register) (ms : Nat) (i : Ticket) :
    (r.advance ms).entries[i]? = r.entries[i]?.map (·.expire (r.now + ms)) :=
  List.getElem?_map

/-! ## How entries go on -/

/-- What a register comes to: every entry has become another at the same place. -/
def Grows (r r' : Register) : Prop :=
  ∀ (i : Ticket) (a : Acquisition), r.entries[i]? = some a →
    ∃ b, r'.entries[i]? = some b ∧ a.Became b

lemma grows_refl (r : Register) : r.Grows r := fun _ a ha => ⟨a, ha, a.became_refl⟩

lemma Grows.trans {r r' r'' : Register} (h : r.Grows r') (h' : r'.Grows r'') : r.Grows r'' := by
  intro i a ha
  obtain ⟨b, hb, hab⟩ := h i a ha
  obtain ⟨c, hc, hbc⟩ := h' i b hb
  exact ⟨c, hc, hab.trans hbc⟩

/-- The acquisition of a ticket, if there is one, has not been granted. -/
def Ungranted (r : Register) (i : Ticket) : Prop :=
  ∀ a, r.entries[i]? = some a → a.isGranted = false

/-- What has not been granted in the end had not been before. -/
lemma Grows.ungranted {r r' : Register} (h : r.Grows r') (hnot : r'.Ungranted i) :
    r.Ungranted i := by
  intro a ha
  obtain ⟨b, hb, hbecame⟩ := h i a ha
  by_contra hgranted
  have := hbecame.isGranted (by simpa using hgranted)
  rw [hnot b hb] at this
  cases this

lemma grows_step (r : Register) (s : LockStep) : r.Grows (r.step s) := by
  intro i a ha
  cases s with
  | acquire var limit =>
    have hi := (List.getElem?_eq_some_iff.1 ha).1
    refine ⟨a, ?_, a.became_refl⟩
    rw [step, getElem?_acquire, if_neg (Nat.ne_of_lt hi), ha]
  | release k =>
    by_cases hheld : ∃ c, r.entries[k]? = some c ∧ c.status = .held
    · obtain ⟨c, hc, hheld⟩ := hheld
      rw [step, getElem?_release hc hheld, ha]
      by_cases hik : i = k
      · rw [hik, hc] at ha
        cases ha
        exact ⟨_, if_pos hik, rfl, rfl, rfl, hheld ▸ .letGo⟩
      · rw [if_neg hik, Option.map_some]
        refine ⟨_, rfl, ?_⟩
        split
        · next hnext =>
          obtain ⟨b, hb, -, hwait, -⟩ := findIdx?_awaits hnext
          rw [ha] at hb
          cases hb
          exact ⟨rfl, rfl, rfl, hwait ▸ .wait _⟩
        · exact a.became_refl
    · push Not at hheld
      rw [step, release_of_not_held hheld]
      exact ⟨a, ha, a.became_refl⟩
  | advance ms =>
    rw [step, getElem?_advance, ha]
    exact ⟨_, rfl, a.became_expire _⟩

/-- What an entry was before a step, if it was there. -/
lemma exists_became {s : LockStep} (hb : (r.step s).entries[i]? = some b)
    (hi : i < r.entries.length) : ∃ a, r.entries[i]? = some a ∧ a.Became b := by
  obtain ⟨a, ha⟩ : ∃ a, r.entries[i]? = some a := ⟨_, List.getElem?_eq_getElem hi⟩
  obtain ⟨c, hc, hac⟩ := r.grows_step s i a ha
  rw [hb] at hc
  cases hc
  exact ⟨a, ha, hac⟩

lemma grows_run (r : Register) (steps : List LockStep) : r.Grows (r.run steps) := by
  induction steps generalizing r with
  | nil => exact r.grows_refl
  | cons s rest ih => exact (r.grows_step s).trans (ih _)

end Register

end TypedVars
