import TypedVars.Proofs.Kept
import TypedVars.Proofs.Lock.FirstCome

/-!
# Locks of one variable

A timeline serves all variables.  What it does for one of them does not depend on the others: when
the acquisitions of other variables and their releases are deleted (`LockStep.only`), the remaining
ones are as they were, at every time (`Timeline.after_only`).

A ticket is the place of an acquisition, so tickets change when others are deleted.  This is seen on
registers, where a step on the variable commutes with leaving out the other entries, and a step on
another variable touches left out entries only.
-/

namespace TypedVars

namespace LockStep

/-- The variable whose lock a step asks for. -/
def asked? : LockStep → Option VarId
  | .acquire var _ => some var
  | .release _ | .advance _ => none

/-- The new ticket of an acquisition when those of other variables are deleted, where the tickets
were given out for some variables. -/
def retell (var : VarId) (asked : List VarId) (k : Ticket) : Ticket :=
  asked.countPBefore (fun v => decide (v = var)) k

/-- What is left of a step when those on other variables are deleted, where the tickets before it
were given out for some variables. -/
def kept (var : VarId) (asked : List VarId) : LockStep → List LockStep
  | .acquire v limit => if v = var then [.acquire v limit] else []
  | .release k => if asked[k]? = some var then [.release (retell var asked k)] else []
  | .advance ms => [.advance ms]

/-- What is left of some steps when those on other variables are deleted, where the tickets before
them were given out for some variables. -/
def only (var : VarId) : List VarId → List LockStep → List LockStep
  | _, [] => []
  | asked, s :: rest => s.kept var asked ++ only var (asked ++ s.asked?.toList) rest

lemma exists_only_append (var : VarId) (asked : List VarId) (steps more : List LockStep) :
    ∃ rest, only var asked (steps ++ more) = only var asked steps ++ rest := by
  induction steps generalizing asked with
  | nil => exact ⟨_, rfl⟩
  | cons s steps ih =>
    obtain ⟨rest, hrest⟩ := ih (asked ++ s.asked?.toList)
    exact ⟨rest, by rw [List.cons_append, only, hrest, only, List.append_assoc]⟩

end LockStep

namespace Register

variable {r : Register} {var v : VarId} {i k : Ticket} {a : Acquisition}

/-- The register without the entries of other variables. -/
def only (r : Register) (var : VarId) : Register :=
  { r with entries := r.entries.filter (·.var = var) }

/-- The variables for which the tickets were given out. -/
def asked (r : Register) : List VarId := r.entries.map (·.var)

/-! ## Tickets -/

lemma retell_asked (r : Register) (var : VarId) (k : Ticket) :
    LockStep.retell var r.asked k = r.entries.countPBefore (·.var = var) k :=
  countPBefore_map _ _ _ _

lemma map_var_grantFirst (v : VarId) (l : List Acquisition) :
    (grantFirst v l).map (·.var) = l.map (·.var) := by
  induction l with
  | nil => rfl
  | cons a rest ih =>
    rw [grantFirst]
    split
    · rfl
    · rw [List.map_cons, ih, List.map_cons]

lemma asked_release (r : Register) (k : Ticket) : (r.release k).asked = r.asked := by
  by_cases hheld : ∃ a, r.entries[k]? = some a ∧ a.status = .held
  · obtain ⟨a, ha, hheld⟩ := hheld
    apply List.ext_getElem?
    intro i
    rw [release_of_held ha hheld, asked, List.map_set, map_var_grantFirst, asked]
    by_cases hik : k = i
    · subst hik
      have hlt := (List.getElem?_eq_some_iff.1 ha).1
      rw [List.getElem?_set_self (by rwa [List.length_map]), List.getElem?_map, ha]
      rfl
    · rw [List.getElem?_set_ne hik]
  · push Not at hheld
    rw [release_of_not_held hheld]

lemma asked_step (r : Register) (s : LockStep) : (r.step s).asked = r.asked ++ s.asked?.toList := by
  cases s with
  | acquire v limit =>
    rw [step, acquire, asked, List.map_append, List.map_singleton, Acquisition.Became.var
      (Acquisition.became_expire _ _)]
    rfl
  | release k => rw [step, asked_release, LockStep.asked?, Option.toList_none, List.append_nil]
  | advance ms =>
    rw [step, advance, asked, List.map_map, LockStep.asked?, Option.toList_none, List.append_nil]
    exact List.map_congr_left fun a _ => (a.became_expire _).var

/-! ## Steps on the variable and on others -/

lemma isTaken_only (r : Register) (var : VarId) : (r.only var).isTaken var = r.isTaken var := by
  rw [isTaken, isTaken, only, List.any_filter]
  congr 1
  funext a
  cases decide (a.var = var) <;> rfl

/-- An acquisition sees the entries of its variable only. -/
lemma acquire_only (r : Register) (var : VarId) (limit : Option Nat) :
    (r.only var).acquire var limit = (r.acquire var limit).only var := by
  have hnew : (r.only var).newcomer var limit = r.newcomer var limit := by
    rw [newcomer, isTaken_only]
    rfl
  have hvar : ((r.newcomer var limit).expire r.now).var = var :=
    ((r.newcomer var limit).became_expire r.now).var
  refine Register.ext rfl ?_
  simp only [acquire, hnew]
  simp only [only, List.filter_append, List.filter_singleton, hvar, decide_true, cond_true]

lemma only_acquire_of_ne (hne : v ≠ var) (limit : Option Nat) :
    (r.acquire v limit).only var = r.only var := by
  have hvar : ((r.newcomer v limit).expire r.now).var = v :=
    ((r.newcomer v limit).became_expire r.now).var
  refine Register.ext rfl ?_
  simp only [acquire, only, List.filter_append, List.filter_singleton, hvar, hne, decide_false,
    cond_false, List.append_nil]

lemma filter_grantFirst (var : VarId) (l : List Acquisition) :
    (grantFirst var l).filter (·.var = var) = grantFirst var (l.filter (·.var = var)) := by
  induction l with
  | nil => rfl
  | cons a rest ih =>
    by_cases hvar : a.var = var
    · rw [List.filter_cons_of_pos (by simpa using hvar), grantFirst, grantFirst]
      split
      · rw [List.filter_cons_of_pos (by simpa using hvar)]
      · rw [List.filter_cons_of_pos (by simpa using hvar), ih]
    · have hnot : a.awaits var = false := by simp [Acquisition.awaits, hvar]
      rw [List.filter_cons_of_neg (by simpa using hvar), grantFirst, hnot,
        if_neg Bool.false_ne_true, List.filter_cons_of_neg (by simpa using hvar), ih]

lemma filter_grantFirst_of_ne (hne : v ≠ var) (l : List Acquisition) :
    (grantFirst v l).filter (·.var = var) = l.filter (·.var = var) := by
  induction l with
  | nil => rfl
  | cons a rest ih =>
    rw [grantFirst]
    split
    · next hwait =>
      have hvar : ¬ a.var = var := by
        rw [(Acquisition.awaits_iff.1 hwait).1]
        exact hne
      rw [List.filter_cons_of_neg (by simpa using hvar),
        List.filter_cons_of_neg (by simpa using hvar)]
    · rw [List.filter_cons, List.filter_cons, ih]

/-- After the first who waits was served, an entry is where it was, for the variable it was. -/
lemma exists_grantFirst (v : VarId) (ha : r.entries[k]? = some a) :
    ∃ b, (grantFirst v r.entries)[k]? = some b ∧ b.var = a.var := by
  rw [getElem?_grantFirst, ha]
  refine ⟨_, rfl, ?_⟩
  split <;> rfl

/-- A release serves and changes entries of its variable only. -/
lemma release_only (ha : r.entries[k]? = some a) (hvar : a.var = var) :
    (r.only var).release (LockStep.retell var r.asked k) = (r.release k).only var := by
  have hentry : (r.only var).entries[LockStep.retell var r.asked k]? = some a := by
    rw [retell_asked]
    exact getElem?_kept ha (by simpa using hvar)
  by_cases hheld : a.status = .held
  · obtain ⟨b, hb, hbvar⟩ := exists_grantFirst a.var ha
    have hplace : (grantFirst a.var r.entries).countPBefore (·.var = var) k =
        LockStep.retell var r.asked k := by
      rw [asked, ← map_var_grantFirst a.var]
      exact (({ r with entries := grantFirst a.var r.entries } : Register).retell_asked var k).symm
    rw [release_of_held ha hheld, release_of_held hentry hheld]
    refine Register.ext rfl ?_
    simp only [only]
    rw [filter_set_kept hb (by simpa using hbvar.trans hvar) (by simpa using hvar), hplace, hvar,
      filter_grantFirst]
  · have hnot : ∀ b, r.entries[k]? = some b → b.status ≠ .held := by
      intro b hb
      rw [ha] at hb
      exact Option.some.inj hb ▸ hheld
    have hnot' : ∀ b, (r.only var).entries[LockStep.retell var r.asked k]? = some b →
        b.status ≠ .held := by
      intro b hb
      rw [hentry] at hb
      exact Option.some.inj hb ▸ hheld
    rw [release_of_not_held hnot, release_of_not_held hnot']

lemma only_release_of_ne (hne : ∀ a, r.entries[k]? = some a → a.var ≠ var) :
    (r.release k).only var = r.only var := by
  by_cases hheld : ∃ a, r.entries[k]? = some a ∧ a.status = .held
  · obtain ⟨a, ha, hheld⟩ := hheld
    obtain ⟨b, hb, hbvar⟩ := exists_grantFirst a.var ha
    have hleave : decide (a.var = var) = false := by simpa using hne a ha
    rw [release_of_held ha hheld]
    refine Register.ext rfl ?_
    simp only [only]
    rw [filter_set_left hb (by rwa [hbvar]) (by exact hleave), filter_grantFirst_of_ne (hne a ha)]
  · push Not at hheld
    rw [release_of_not_held hheld]

lemma advance_only (r : Register) (var : VarId) (ms : Nat) :
    (r.only var).advance ms = (r.advance ms).only var := by
  refine Register.ext rfl ?_
  simp only [advance, only, List.filter_map]
  congr 1
  refine List.filter_congr fun a _ => ?_
  rw [Function.comp_apply, (a.became_expire _).var]

/-- To leave out the other entries after a step is to do what is left of the step without them. -/
lemma run_kept (r : Register) (var : VarId) (s : LockStep) :
    (r.only var).run (s.kept var r.asked) = (r.step s).only var := by
  cases s with
  | acquire v limit =>
    by_cases hv : v = var
    · subst hv
      rw [LockStep.kept, if_pos rfl]
      exact r.acquire_only v limit
    · rw [LockStep.kept, if_neg hv]
      exact (only_acquire_of_ne hv limit).symm
  | release k =>
    rw [LockStep.kept, asked, List.getElem?_map]
    by_cases hk : ∃ a, r.entries[k]? = some a ∧ a.var = var
    · obtain ⟨a, ha, hvar⟩ := hk
      rw [ha, Option.map_some, if_pos (congrArg some hvar)]
      exact release_only ha hvar
    · push Not at hk
      rw [if_neg]
      · exact (only_release_of_ne hk).symm
      · intro hsome
        obtain ⟨a, ha, hvar⟩ := Option.map_eq_some_iff.1 hsome
        exact hk a ha hvar
  | advance ms => exact r.advance_only var ms

/-- So it is for a run. -/
theorem run_only (r : Register) (var : VarId) (steps : List LockStep) :
    (r.only var).run (LockStep.only var r.asked steps) = (r.run steps).only var := by
  induction steps generalizing r with
  | nil => rfl
  | cons s rest ih => rw [LockStep.only, run_append, run_kept, ← asked_step, ih, run_cons]

end Register

namespace Timeline

/-- Without the other variables the acquisitions of one are the same, at the same time. -/
theorem after_only (var : VarId) (steps : List LockStep) :
    (after (LockStep.only var [] steps)).now = (after steps).now ∧
      (after (LockStep.only var [] steps)).acquisitions =
        (after steps).acquisitions.filter (·.var = var) := by
  have hrun := ({} : Register).run_only var steps
  change ({} : Register).run (LockStep.only var [] steps) = _ at hrun
  rw [← register_after, ← register_after] at hrun
  exact ⟨congrArg (·.now) hrun, congrArg (·.entries) hrun⟩

end Timeline

end TypedVars
