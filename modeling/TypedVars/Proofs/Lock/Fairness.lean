import Mathlib.Tactic.Common
import TypedVars.Proofs.Lock.Register

/-!
# Fair registers

A register is *fair* (`Register.Fair`) when whoever waits for a variable waits for a holder, nobody
has been overtaken, and exactly those have been refused whose time ran out while they waited.  Every
step keeps a register fair (`Fair.step`): the one case with something to it is a release, where the
first who waits must come before all who ask later and after all who were served.

One who is never granted is never in the way.  In a fair register it waits behind a holder, so it is
not what makes a newcomer wait, and at each release somebody before it is chosen or nobody at all.
So the run without it is the same for all the others (`Fair.run_without`).
-/

namespace TypedVars

namespace LockStep

/-- The number of tickets that a step gives out. -/
def tickets : LockStep → Nat
  | .acquire _ _ => 1
  | .release _ => 0
  | .advance _ => 0

/-- What a ticket is called when ticket `i` was never given out. -/
def renumber (i k : Ticket) : Ticket := if i < k then k - 1 else k

/-- What is left of a step, before which `n` tickets were given out, without the acquisition that
gets ticket `i`. -/
def omitted (i : Ticket) (n : Nat) : LockStep → List LockStep
  | .acquire var limit => if n = i then [] else [.acquire var limit]
  | .release k => if k = i then [] else [.release (renumber i k)]
  | .advance ms => [.advance ms]

/-- What is left of steps, before which `n` tickets were given out, without the acquisition that
gets ticket `i`. -/
def without (i : Ticket) : Nat → List LockStep → List LockStep
  | _, [] => []
  | n, s :: rest => s.omitted i n ++ without i (n + s.tickets) rest

end LockStep

namespace Register

variable {r : Register} {var : VarId} {i j : Ticket} {a b : Acquisition}

/-- Nobody waits for nothing, is overtaken, or is kept or sent away at the wrong time. -/
structure Fair (r : Register) : Prop where
  /-- Whoever waits for a variable waits for one who holds it. -/
  awaited : ∀ (i : Ticket) (a : Acquisition), r.entries[i]? = some a → a.status = .waiting →
    ∃ (j : Ticket) (b : Acquisition), r.entries[j]? = some b ∧ b.var = a.var ∧ b.status = .held
  /-- When one was granted, those before it were served or gave up. -/
  in_order : ∀ (i j : Ticket) (a b : Acquisition), i < j → r.entries[i]? = some a →
    r.entries[j]? = some b → a.var = b.var → b.isGranted = true → a.isActive = false
  /-- Whoever waits has time left, and whoever was refused had none. -/
  punctual : ∀ (i : Ticket) (a : Acquisition), r.entries[i]? = some a → a.Punctual r.now

lemma fair_empty : ({} : Register).Fair := by constructor <;> simp

lemma isTaken_iff : r.isTaken var = true ↔ ∃ (i : Ticket) (a : Acquisition),
    r.entries[i]? = some a ∧ a.var = var ∧ a.isActive = true := by
  simp only [isTaken, List.any_eq_true, List.mem_iff_getElem?, Bool.and_eq_true,
    decide_eq_true_eq]
  exact ⟨fun ⟨a, ⟨i, hi⟩, ha⟩ => ⟨i, a, hi, ha⟩, fun ⟨i, a, hi, ha⟩ => ⟨a, ⟨i, hi⟩, ha⟩⟩

/-- A variable that somebody holds or waits for is held. -/
lemma Fair.exists_held (h : r.Fair) (htaken : r.isTaken var = true) :
    ∃ (i : Ticket) (a : Acquisition), r.entries[i]? = some a ∧ a.var = var ∧ a.status = .held := by
  obtain ⟨i, a, ha, rfl, hactive⟩ := isTaken_iff.1 htaken
  rcases Acquisition.isActive_iff.1 hactive with hwait | hheld
  · exact h.awaited i a ha hwait
  · exact ⟨i, a, ha, rfl, hheld⟩

/-- Nobody else holds what one holds. -/
lemma Fair.one_holder (h : r.Fair) (ha : r.entries[i]? = some a) (hb : r.entries[j]? = some b)
    (haheld : a.status = .held) (hbheld : b.status = .held) (hvar : a.var = b.var) : i = j := by
  rcases Nat.lt_trichotomy i j with hlt | heq | hlt
  · have := h.in_order i j a b hlt ha hb hvar (Acquisition.isGranted_iff.2 (.inl hbheld))
    simp [Acquisition.isActive, haheld] at this
  · exact heq
  · have := h.in_order j i b a hlt hb ha hvar.symm (Acquisition.isGranted_iff.2 (.inl haheld))
    simp [Acquisition.isActive, hbheld] at this

/-! ## Every step is fair -/

/-- A newcomer holds a free variable; it waits for one that is taken, if it wants to wait at all. -/
lemma expire_newcomer (r : Register) (var : VarId) (limit : Option Nat) :
    (r.newcomer var limit).expire r.now =
      { var, since := r.now, limit,
        status :=
          if r.isTaken var then if limit = some 0 then .refused else .waiting else .held } := by
  have hdue : (r.newcomer var limit).isOverdue r.now = true ↔ limit = some 0 := by
    rw [Acquisition.isOverdue_iff]
    constructor
    · rintro ⟨l, hl, hle⟩
      exact hl.trans (congrArg some (Nat.le_zero.1 (Nat.le_of_add_le_add_left hle)))
    · exact fun hl => ⟨0, hl, Nat.le_refl _⟩
  cases htaken : r.isTaken var with
  | false => simp [newcomer, Acquisition.expire, htaken]
  | true =>
    have hwait : (r.newcomer var limit).status = .waiting := by simp [newcomer, htaken]
    by_cases hzero : limit = some 0
    · rw [Acquisition.expire, if_pos ⟨hwait, hdue.2 hzero⟩, if_pos rfl, if_pos hzero]
      rfl
    · rw [Acquisition.expire, if_neg fun h => hzero (hdue.1 h.2), if_pos rfl, if_neg hzero,
        newcomer, htaken]
      rfl

/-- Who asks for a free variable holds it. -/
lemma acquire_of_free (hfree : r.isTaken var = false) (limit : Option Nat) :
    r.acquire var limit =
      { r with entries := r.entries ++ [⟨var, r.now, limit, .held⟩] } := by
  simp [Register.acquire, expire_newcomer, hfree]

lemma getElem?_acquire_of_some (ha : r.entries[i]? = some a) (limit : Option Nat) :
    (r.acquire var limit).entries[i]? = some a := by
  rw [getElem?_acquire, if_neg (Nat.ne_of_lt (List.getElem?_eq_some_iff.1 ha).1), ha]

lemma Fair.acquire (h : r.Fair) (var : VarId) (limit : Option Nat) :
    (r.acquire var limit).Fair where
  awaited i a ha hwait := by
    suffices hheld : ∃ (j : Ticket) (b : Acquisition),
        r.entries[j]? = some b ∧ b.var = a.var ∧ b.status = .held by
      obtain ⟨j, b, hb, hheld⟩ := hheld
      exact ⟨j, b, getElem?_acquire_of_some hb limit, hheld⟩
    rw [getElem?_acquire, expire_newcomer] at ha
    split at ha
    · cases ha
      refine h.exists_held ?_
      by_contra htaken
      simp [htaken] at hwait
    · exact h.awaited i a ha hwait
  in_order i j a b hij ha hb hvar hgranted := by
    rw [getElem?_acquire, expire_newcomer] at hb
    split at hb
    · next hj =>
      -- a newcomer is granted what nobody holds or waits for
      cases hb
      rw [getElem?_acquire, if_neg (Nat.ne_of_lt (hj ▸ hij))] at ha
      cases htaken : r.isTaken var with
      | true =>
        simp only [htaken, if_true] at hgranted
        split at hgranted <;> cases hgranted
      | false =>
        by_contra hactive
        have := isTaken_iff.2 ⟨i, a, ha, hvar, by simpa using hactive⟩
        simp [htaken] at this
    · have hj := (List.getElem?_eq_some_iff.1 hb).1
      rw [getElem?_acquire, if_neg (Nat.ne_of_lt (Nat.lt_trans hij hj))] at ha
      exact h.in_order i j a b hij ha hb hvar hgranted
  punctual i a ha := by
    rw [getElem?_acquire] at ha
    split at ha
    · cases ha
      refine Acquisition.punctual_expire fun hrefused => ?_
      simp only [newcomer] at hrefused
      split at hrefused <;> cases hrefused
    · exact h.punctual i a ha

/-- What an entry is after a release: that of the one who let go, that of the first who waited, or
as it was. -/
lemma release_cases (ha : r.entries[i]? = some a) (hheld : a.status = .held)
    (hb : (r.release i).entries[j]? = some b) :
    (j = i ∧ b = { a with status := .released }) ∨
    (r.entries.findIdx? (·.awaits a.var) = some j ∧
      ∃ c, r.entries[j]? = some c ∧ b = { c with status := .held }) ∨
    (j ≠ i ∧ r.entries.findIdx? (·.awaits a.var) ≠ some j ∧ r.entries[j]? = some b) := by
  rw [getElem?_release ha hheld] at hb
  split at hb
  · next hj => exact .inl ⟨hj, (Option.some.inj hb).symm⟩
  · next hj =>
    obtain ⟨c, hc, rfl⟩ := Option.map_eq_some_iff.1 hb
    split
    · next hnext => exact .inr (.inl ⟨hnext, c, hc, rfl⟩)
    · next hnext => exact .inr (.inr ⟨hj, hnext, hc⟩)

/-- A release does not touch the holders of other variables. -/
lemma getElem?_release_of_held (ha : r.entries[i]? = some a) (hheld : a.status = .held)
    (hb : r.entries[j]? = some b) (hvar : b.var ≠ a.var) :
    (r.release i).entries[j]? = some b := by
  have hj : j ≠ i := by
    rintro rfl
    rw [ha] at hb
    cases hb
    exact hvar rfl
  rw [getElem?_release ha hheld, if_neg hj, hb, Option.map_some,
    if_neg (findIdx?_awaits_ne hb (.inr hvar))]

/-- Whoever still waits for what was let go waits for the one who was served. -/
lemma exists_served (ha : r.entries[i]? = some a) (hheld : a.status = .held)
    (hb : r.entries[j]? = some b) (hvar : b.var = a.var) (hwait : b.status = .waiting) :
    ∃ (k : Ticket) (c : Acquisition),
      (r.release i).entries[k]? = some c ∧ c.var = a.var ∧ c.status = .held := by
  cases hnext : r.entries.findIdx? (·.awaits a.var) with
  | none =>
    have := List.findIdx?_eq_none_iff.1 hnext b (List.mem_of_getElem? hb)
    simp [Acquisition.awaits, hvar, hwait] at this
  | some k =>
    obtain ⟨c, hc, hcvar, -⟩ := findIdx?_awaits hnext
    have hk : k ≠ i := by
      rintro rfl
      exact findIdx?_awaits_ne ha (.inl (by simp [hheld])) hnext
    refine ⟨k, { c with status := .held }, ?_, hcvar, rfl⟩
    rw [getElem?_release ha hheld, if_neg hk, hc, Option.map_some, if_pos hnext]

lemma Fair.release (h : r.Fair) (ha : r.entries[i]? = some a) (hheld : a.status = .held) :
    (r.release i).Fair where
  awaited j b hb hwait := by
    rcases release_cases ha hheld hb with ⟨-, rfl⟩ | ⟨-, c, -, rfl⟩ | ⟨-, hnext, hb⟩
    · cases hwait
    · cases hwait
    · by_cases hvar : b.var = a.var
      · rw [hvar]
        exact exists_served ha hheld hb hvar hwait
      · obtain ⟨k, c, hc, hcvar, hcheld⟩ := h.awaited j b hb hwait
        exact ⟨k, c, getElem?_release_of_held ha hheld hc (hcvar ▸ hvar), hcvar, hcheld⟩
  in_order j k b c hjk hb hc hvar hgranted := by
    obtain ⟨b', hb', hbecame⟩ := exists_became (s := .release i) hb
      (length_release r i ▸ (List.getElem?_eq_some_iff.1 hb).1)
    rcases release_cases ha hheld hc with ⟨rfl, rfl⟩ | ⟨hnext, c, hcwas, rfl⟩ | ⟨-, -, hc⟩
    · exact hbecame.isActive (h.in_order j k b' a hjk hb' ha (hbecame.var ▸ hvar)
        (Acquisition.isGranted_iff.2 (.inl hheld)))
    · -- the first who waited was served, so one before it can only be the one who let go
      obtain ⟨c', hc', hcvar, -, hfirst⟩ := findIdx?_awaits hnext
      rw [hcwas] at hc'
      cases hc'
      have hbvar : b'.var = a.var := (hbecame.var ▸ hvar).trans hcvar
      by_cases hactive : b'.isActive = true
      · have hb'held : b'.status = .held :=
          (Acquisition.isActive_iff.1 hactive).resolve_left (hfirst j b' hjk hb' hbvar)
        have hj := h.one_holder hb' ha hb'held hheld hbvar
        rw [getElem?_release ha hheld, if_pos hj] at hb
        cases hb
        rfl
      · exact hbecame.isActive (by simpa using hactive)
    · exact hbecame.isActive (h.in_order j k b' c hjk hb' hc (hbecame.var ▸ hvar) hgranted)
  punctual j b hb := by
    have hnow : (r.release i).now = r.now := by rw [release_of_held ha hheld]
    rw [hnow]
    rcases release_cases ha hheld hb with ⟨-, rfl⟩ | ⟨-, c, -, rfl⟩ | ⟨-, -, hb⟩
    · exact Acquisition.punctual_of_isGranted rfl _
    · exact Acquisition.punctual_of_isGranted rfl _
    · exact h.punctual j b hb

lemma Fair.advance (h : r.Fair) (ms : Nat) : (r.advance ms).Fair where
  awaited i a ha hwait := by
    rw [getElem?_advance] at ha
    obtain ⟨a', ha', rfl⟩ := Option.map_eq_some_iff.1 ha
    rcases a'.expire_cases (r.now + ms) with ⟨-, -, heq⟩ | ⟨-, heq⟩
    · rw [heq] at hwait
      cases hwait
    · rw [heq] at hwait ⊢
      obtain ⟨j, b, hb, hvar, hheld⟩ := h.awaited i a' ha' hwait
      refine ⟨j, b, ?_, hvar, hheld⟩
      rw [getElem?_advance, hb, Option.map_some,
        Acquisition.expire_of_not_waiting (by simp [hheld])]
  in_order i j a b hij ha hb hvar hgranted := by
    rw [getElem?_advance] at ha hb
    obtain ⟨a', ha', rfl⟩ := Option.map_eq_some_iff.1 ha
    obtain ⟨b', hb', rfl⟩ := Option.map_eq_some_iff.1 hb
    have hbecame := a'.became_expire (r.now + ms)
    have hbvar := (b'.became_expire (r.now + ms)).var
    rcases b'.expire_cases (r.now + ms) with ⟨-, -, heq⟩ | ⟨-, heq⟩
    · rw [heq] at hgranted
      cases hgranted
    · rw [heq] at hgranted
      exact hbecame.isActive (h.in_order i j a' b' hij ha' hb'
        (hbecame.var.symm.trans (hvar.trans hbvar)) hgranted)
  punctual i a ha := by
    rw [getElem?_advance] at ha
    obtain ⟨a', ha', rfl⟩ := Option.map_eq_some_iff.1 ha
    exact Acquisition.punctual_expire fun hrefused =>
      Acquisition.isOverdue_mono ((h.punctual i a' ha').overdue hrefused) (Nat.le_add_right _ _)

/-- Who is granted in a step still holds after it. -/
lemma held_of_granted {s : LockStep} (hb : (r.step s).entries[i]? = some b)
    (hgranted : b.isGranted = true) (hnot : r.Ungranted i) : b.status = .held := by
  have hsame : r.entries[i]? ≠ some b := by
    intro ha
    rw [hnot b ha] at hgranted
    cases hgranted
  cases s with
  | acquire var limit =>
    rw [Register.step, getElem?_acquire, expire_newcomer] at hb
    split at hb
    · cases hb
      rcases Acquisition.isGranted_iff.1 hgranted with hheld | hreleased
      · exact hheld
      · -- a newcomer has let go of nothing
        simp only at hreleased
        split at hreleased
        · split at hreleased <;> cases hreleased
        · cases hreleased
    · exact absurd hb hsame
  | release k =>
    by_cases hheld : ∃ a, r.entries[k]? = some a ∧ a.status = .held
    · obtain ⟨a, ha, hheld⟩ := hheld
      rcases release_cases ha hheld hb with ⟨rfl, -⟩ | ⟨-, c, -, rfl⟩ | ⟨-, -, hb⟩
      · have := hnot a ha
        simp [Acquisition.isGranted, hheld] at this
      · rfl
      · exact absurd hb hsame
    · push Not at hheld
      rw [Register.step, release_of_not_held hheld] at hb
      exact absurd hb hsame
  | advance ms =>
    rw [Register.step, getElem?_advance] at hb
    obtain ⟨a, ha, rfl⟩ := Option.map_eq_some_iff.1 hb
    rcases a.expire_cases (r.now + ms) with ⟨-, -, heq⟩ | ⟨-, heq⟩
    · rw [heq] at hgranted
      cases hgranted
    · rw [heq] at hsame
      exact absurd ha hsame

lemma Fair.step (h : r.Fair) (s : LockStep) : (r.step s).Fair := by
  cases s with
  | acquire var limit => exact h.acquire var limit
  | release i =>
    by_cases hheld : ∃ a, r.entries[i]? = some a ∧ a.status = .held
    · obtain ⟨a, ha, hheld⟩ := hheld
      exact h.release ha hheld
    · push Not at hheld
      rw [Register.step, release_of_not_held hheld]
      exact h
  | advance ms => exact h.advance ms

lemma Fair.run (h : r.Fair) (steps : List LockStep) : (r.run steps).Fair := by
  induction steps generalizing r with
  | nil => exact h
  | cons s rest ih => exact ih (h.step s)

/-! ## Runs without one acquisition -/

/-- The register without one of its entries. -/
def erase (r : Register) (i : Ticket) : Register := { r with entries := r.entries.eraseIdx i }

lemma erase_of_length_le (hi : r.entries.length ≤ i) : r.erase i = r := by
  rw [erase, List.eraseIdx_of_length_le hi]

lemma getElem?_erase_renumber {k : Ticket} (hk : k ≠ i) :
    (r.erase i).entries[LockStep.renumber i k]? = r.entries[k]? := by
  unfold LockStep.renumber erase
  split
  · next hlt =>
    rw [List.getElem?_eraseIdx_of_ge (Nat.le_sub_one_of_lt hlt),
      Nat.sub_add_cancel (Nat.one_le_of_lt hlt)]
  · next hle => rw [List.getElem?_eraseIdx_of_lt (Nat.lt_of_le_of_ne (Nat.not_lt.1 hle) hk)]

/-- A variable is taken without the one who was never granted, because it waited for another. -/
lemma Fair.isTaken_erase (h : r.Fair) (hnot : r.Ungranted i) (var : VarId) :
    (r.erase i).isTaken var = r.isTaken var := by
  apply Bool.eq_iff_iff.2
  constructor
  · simp only [isTaken, List.any_eq_true]
    rintro ⟨a, ha, htaken⟩
    exact ⟨a, List.mem_of_mem_eraseIdx ha, htaken⟩
  · intro htaken
    obtain ⟨j, a, ha, hvar, hheld⟩ := h.exists_held htaken
    have hj : j ≠ i := by
      rintro rfl
      simpa [Acquisition.isGranted, hheld] using hnot a ha
    refine List.any_eq_true.2 ⟨a, List.mem_eraseIdx_iff_getElem?.2 ⟨j, hj, ha⟩, ?_⟩
    simp [hvar, Acquisition.isActive, hheld]

lemma Fair.acquire_erase (h : r.Fair) (hnot : r.Ungranted i) (hi : i < r.entries.length)
    (var : VarId) (limit : Option Nat) :
    (r.erase i).acquire var limit = (r.acquire var limit).erase i := by
  have hnew : (r.erase i).newcomer var limit = r.newcomer var limit := by
    simp only [newcomer, h.isTaken_erase hnot]
    rfl
  refine Register.ext rfl ?_
  simp only [Register.acquire, hnew]
  simp only [erase, List.eraseIdx_append_of_lt_length hi]

/-- Whom a release serves does not depend on one whom it does not serve. -/
lemma grantFirst_eraseIdx {l : List Acquisition}
    (hnot : ∀ a, (grantFirst var l)[i]? = some a → a.isGranted = false) :
    grantFirst var (l.eraseIdx i) = (grantFirst var l).eraseIdx i := by
  induction l generalizing i with
  | nil => rfl
  | cons a rest ih =>
    rw [grantFirst] at hnot ⊢
    cases hwait : a.awaits var with
    | true =>
      simp only [hwait, if_true] at hnot ⊢
      cases i with
      | zero => simpa [Acquisition.isGranted] using hnot _ rfl
      | succ i => simp [grantFirst, hwait]
    | false =>
      simp only [hwait, Bool.false_eq_true, if_false] at hnot ⊢
      cases i with
      | zero => rfl
      | succ i =>
        simp only [List.eraseIdx_cons_succ, grantFirst, hwait, Bool.false_eq_true, if_false]
        rw [ih hnot]

lemma release_erase {k : Ticket} (hk : k ≠ i) (hnot : (r.release k).Ungranted i) :
    (r.erase i).release (LockStep.renumber i k) = (r.release k).erase i := by
  have hentry := getElem?_erase_renumber (r := r) hk
  by_cases hheld : ∃ a, r.entries[k]? = some a ∧ a.status = .held
  · obtain ⟨a, ha, hheld⟩ := hheld
    rw [release_of_held ha hheld] at hnot ⊢
    rw [release_of_held (hentry.trans ha) hheld]
    have hserved : grantFirst a.var (r.erase i).entries =
        (grantFirst a.var r.entries).eraseIdx i := by
      refine grantFirst_eraseIdx fun b hb => hnot b ?_
      rw [List.getElem?_set_ne hk, hb]
    rw [hserved]
    refine Register.ext rfl ?_
    simp only [erase, LockStep.renumber, List.eraseIdx_set, if_neg (Ne.symm hk)]
    split <;> rfl
  · push Not at hheld
    rw [release_of_not_held hheld, release_of_not_held (hentry ▸ hheld)]

lemma advance_erase (r : Register) (i : Ticket) (ms : Nat) :
    (r.erase i).advance ms = (r.advance ms).erase i := by
  simp only [advance, erase, List.eraseIdx_map]

lemma length_step (r : Register) (s : LockStep) :
    (r.step s).entries.length = r.entries.length + s.tickets := by
  cases s with
  | acquire var limit => exact List.length_append
  | release k => exact r.length_release k
  | advance ms => exact List.length_map _

/-- A step does to the others what it does without an acquisition that it does not grant. -/
lemma Fair.run_omitted (h : r.Fair) (s : LockStep) (hnot : (r.step s).Ungranted i) :
    (r.erase i).run (s.omitted i r.entries.length) = (r.step s).erase i := by
  have hnow : r.Ungranted i := (r.grows_step s).ungranted hnot
  cases s with
  | acquire var limit =>
    rcases Nat.lt_trichotomy r.entries.length i with hi | hi | hi
    · rw [erase_of_length_le (Nat.le_of_lt hi), erase_of_length_le (r.length_step _ ▸ hi),
        LockStep.omitted, if_neg (Nat.ne_of_lt hi)]
      rfl
    · -- the register without the new entry is the one before the acquisition
      rw [erase_of_length_le (Nat.le_of_eq hi), LockStep.omitted, if_pos hi]
      refine Register.ext rfl ?_
      simp only [run_nil, Register.step, Register.acquire, erase, ← hi]
      rw [List.eraseIdx_append_of_length_le (Nat.le_refl _), Nat.sub_self, List.eraseIdx_cons_zero,
        List.append_nil]
    · rw [LockStep.omitted, if_neg (Nat.ne_of_gt hi)]
      exact h.acquire_erase hnow hi var limit
  | release k =>
    by_cases hk : k = i
    · -- one that is never granted has nothing to let go
      have hnone : r.release k = r := by
        refine release_of_not_held fun a ha hheld => ?_
        have := hnow a (hk ▸ ha)
        simp [Acquisition.isGranted, hheld] at this
      rw [LockStep.omitted, if_pos hk, Register.step, hnone, run_nil]
    · rw [LockStep.omitted, if_neg hk]
      exact release_erase hk hnot
  | advance ms => exact r.advance_erase i ms

/-- A run does to the others what it does without an acquisition that it does not grant. -/
theorem Fair.run_without (h : r.Fair) (steps : List LockStep)
    (hnot : (r.run steps).Ungranted i) :
    (r.erase i).run (LockStep.without i r.entries.length steps) = (r.run steps).erase i := by
  induction steps generalizing r with
  | nil => rfl
  | cons s rest ih =>
    have hnext : (r.step s).Ungranted i := ((r.step s).grows_run rest).ungranted hnot
    rw [LockStep.without, run_append, h.run_omitted s hnext, ← r.length_step, run_cons]
    exact ih (h.step s) hnot

end Register

end TypedVars
