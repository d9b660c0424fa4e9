import TypedVars.Proofs.Number.Order
import TypedVars.Proofs.Store.Addition

/-!
# Counters in the long run

An increment answers an exact integer and stores the double that is nearest to it.  `Keeps` says
how much of the integer is left in the double: all of it up to `2 ^ 53`, and else as much as a
distance of `512` leaves.  What matters to the next increment is that nothing more gets lost when
the double is read again (`keeps_ofInt`).

`Store.CountedTo` are the runs in which a variable is only read and incremented.  A variable that
is absent before such a run holds, at any point of it, the double of an integer of 64 bits
(`Store.CountedTo.isCounter`), and each increment leads from one such double to another.  An
increment by zero leaves the very text alone, and the increments of one sign move the number in one
direction (`Store.counter_coherent`).
-/

namespace TypedVars

/-! ## What is kept of an integer -/

/-- A double is what a counter keeps of an integer of 64 bits. -/
structure Keeps (x : Double) (r : ℤ) : Prop where
  clamped : clamp r = r
  nearest : x.IsNearest r
  close : |x.value - r| ≤ 512
  exact : r.natAbs ≤ 2 ^ 53 → x.value = r
  /-- Read back as an integer it becomes the same double again. -/
  restored : ∃ n, x.toInt64? = some n ∧ Double.ofInt n = x

variable {x y : Double} {r : ℤ}

lemma bounds_of_clamp (hr : clamp r = r) : minInt64 ≤ r ∧ r ≤ maxInt64 := by
  simp only [clamp, minInt64, maxInt64] at *
  omega

theorem keeps_ofInt (hr : clamp r = r) : Keeps (.ofInt r) r where
  clamped := hr
  nearest := by
    have hnearest := Double.isNearest_ofInt_clamp r
    rw [hr] at hnearest
    exact hnearest
  close := by
    have hsmall := natAbs_clamp_le r
    rw [hr] at hsmall
    exact Double.abs_value_ofInt_sub_le hsmall
  exact := Double.value_ofInt
  restored := Double.toInt64?_ofInt (bounds_of_clamp hr).1 (bounds_of_clamp hr).2

lemma Value.encode_inj {v w : Value} (h : v.encode = w.encode) : v = w := by
  have hdecode := congrArg decode h
  rw [decode_encode, decode_encode] at hdecode
  exact Reading.value.inj hdecode

/-! ## The texts of a counter -/

/-- The texts under a variable that is counted from nothing: none, or the double of an integer of 64
bits. -/
def IsCounter (raw : Option String) : Prop :=
  raw = none ∨ ∃ r, clamp r = r ∧ raw = some (Value.number (.ofInt r)).encode

lemma total_number {n : ℤ} (hn : x.toInt64? = some n) (delta : ℤ) :
    Bindings.total (valueOf (some (Value.number x).encode)) delta = clamp (n + delta) := by
  have hbase : (valueOf (some (Value.number x).encode)).bind Value.integer? = some n := by
    rw [valueOf, Option.bind_some, Value.decode_encode]
    exact hn
  rw [Bindings.total, hbase]

/-- The sum with a counter is one with an integer that has the double of the counter. -/
lemma exists_total (hr : clamp r = r) : ∃ n, clamp n = n ∧ Double.ofInt n = .ofInt r ∧
    ∀ delta, Bindings.total (valueOf (some (Value.number (.ofInt r)).encode)) delta =
      clamp (n + delta) := by
  obtain ⟨n, hn, hsame⟩ := (keeps_ofInt hr).restored
  exact ⟨n, Double.toInt64?_clamped hn, hsame, total_number hn⟩

lemma value_ofInt_clamp_le {i j : ℤ} (hij : i ≤ j) :
    (Double.ofInt (clamp i)).value ≤ (Double.ofInt (clamp j)).value := by
  have hi := natAbs_clamp_le i
  have hj := natAbs_clamp_le j
  apply Double.value_ofInt_le _ (by omega) (by omega)
  simp only [clamp]
  omega

/-! ## Runs in which a variable is counted -/

/-- Whether a call on a variable only reads it or adds to it, and what it adds is of a kind. -/
def Call.Counts (c : Call) (var : VarId) (p : ℤ → Prop) : Prop :=
  c.var? = some var → c.isRead = true ∨ ∃ amount, c = .increment var amount ∧ p amount.delta

namespace Store

variable {β : Type} [Backend β] {s s' s'' : Store β} {c : Call} {var v : VarId} {job : Job}
  {p : ℤ → Prop}

/-- A run of a store in which a variable is only read, and incremented by deltas of a kind.  Between
the calls the backend may change in every way that leaves the text of the variable alone; it may
also begin to fail, or stop. -/
inductive CountedTo (var : VarId) (p : ℤ → Prop) (s : Store β) : Store β → Prop where
  | refl : CountedTo var p s s
  | call {s' : Store β} (h : CountedTo var p s s') (c : Call) (hc : c.Counts var p) :
    CountedTo var p s (s'.call c).2
  | outside {s' : Store β} (h : CountedTo var p s s') (change : β → β)
    (hsame : Backend.stored (change s'.backend) var = Backend.stored s'.backend var) :
    CountedTo var p s { s' with backend := change s'.backend }

lemma CountedTo.unused (h : s.CountedTo var p s') (hs : s.locks.Unused) : s'.locks.Unused := by
  induction h with
  | refl => exact hs
  | call h c hc ih => exact unused_call ih c
  | outside h change hsame ih => exact ih

variable [AtomicBackend β]

lemma stored_locked_of_ne (hkey : v.key ≠ "") (h : s.locks.Unused) (hne : var ≠ v) :
    Backend.stored (s.locked v job).2.backend var = Backend.stored s.backend var := by
  have halone := locked_alone hkey h job
  cases hread : s.readFailure? v with
  | some e => rw [(halone.failed e hread).2, AtomicBackend.stored_get]
  | none =>
    have hbackend := (halone.found _ (fetch_of_success hread)).2
    rw [hbackend, stored_written_of_ne hne, (moved_fetch s v).backend, AtomicBackend.stored_get]

/-- A call by which a variable is counted leaves its text alone, or it is an increment that does not
fail. -/
lemma stored_call_of_counts (hkey : var.key ≠ "") (h : s.locks.Unused) (hc : c.Counts var p) :
    Backend.stored (s.call c).2.backend var = Backend.stored s.backend var ∨
      ∃ amount, c = .increment var amount ∧ p amount.delta ∧ s.fault? c = none := by
  cases hjob : c.job? with
  | none =>
    refine .inl (stored_call s hjob fun hwrites => ?_)
    cases c <;> cases hwrites
    all_goals obtain hread | ⟨amount, heq, -⟩ := hc rfl <;> contradiction
  | some q =>
    obtain ⟨v, job⟩ := q
    by_cases hv : v = var
    · subst hv
      obtain hread | ⟨amount, rfl, hp⟩ := hc (Call.var?_of_job? hjob)
      · cases c <;> first | cases hjob | cases hread
      · cases hfault : s.fault? (.increment v amount) with
        | some e => exact .inl (congrFun ((failsAtomically h _).texts e (returned h hfault)) v)
        | none => exact .inr ⟨amount, rfl, hp, rfl⟩
    · rw [call_of_job? hjob]
      exact .inl (stored_locked_of_ne (Call.key_ne_of_job? hjob) h (Ne.symm hv))

/-- In such a run the text stays that of a counter. -/
theorem CountedTo.isCounter (h : s.CountedTo var p s') (hkey : var.key ≠ "")
    (hs : s.locks.Unused) (hcounter : IsCounter (Backend.stored s.backend var)) :
    IsCounter (Backend.stored s'.backend var) := by
  induction h with
  | refl => exact hcounter
  | outside h change hsame ih => exact hsame ▸ ih
  | @call s' h c hc ih =>
    rcases stored_call_of_counts hkey (h.unused hs) hc with hsame | ⟨amount, rfl, -, hfault⟩
    · exact hsame ▸ ih
    · obtain ⟨-, hstored⟩ := increment_of_success amount hkey (h.unused hs) hfault
      have hwritten := hstored var
      rw [if_pos rfl] at hwritten
      exact .inr ⟨_, Bindings.clamp_total _ amount.clamp_delta, hwritten⟩

/-- In such a run a counter that is there stays there, and moves as its increments do: a relation
that leads from each double to those of the sums leads from the first number to the last. -/
theorem CountedTo.related {R : ℚ → ℚ → Prop} (hrefl : ∀ q, R q q)
    (htrans : ∀ q₁ q₂ q₃, R q₁ q₂ → R q₂ q₃ → R q₁ q₃)
    (hadd : ∀ n delta, p delta →
      R (Double.ofInt (clamp n)).value (Double.ofInt (clamp (n + delta))).value)
    (h : s.CountedTo var p s') (hkey : var.key ≠ "") (hs : s.locks.Unused) (hr : clamp r = r)
    (hfound : Backend.stored s.backend var = some (Value.number (.ofInt r)).encode) :
    ∃ r', clamp r' = r' ∧
      Backend.stored s'.backend var = some (Value.number (.ofInt r')).encode ∧
      R (Double.ofInt r).value (Double.ofInt r').value := by
  induction h with
  | refl => exact ⟨r, hr, hfound, hrefl _⟩
  | outside h change hsame ih =>
    obtain ⟨r', hr', hfound', hrel⟩ := ih
    exact ⟨r', hr', hsame.trans hfound', hrel⟩
  | @call s' h c hc ih =>
    obtain ⟨r', hr', hfound', hrel⟩ := ih
    rcases stored_call_of_counts hkey (h.unused hs) hc with hsame | ⟨amount, rfl, hp, hfault⟩
    · exact ⟨r', hr', hsame.trans hfound', hrel⟩
    · obtain ⟨-, hstored⟩ := increment_of_success amount hkey (h.unused hs) hfault
      obtain ⟨n, hn, hsame, htotal⟩ := exists_total hr'
      have hwritten := hstored var
      rw [if_pos rfl, hfound', htotal] at hwritten
      have hmove := hadd n amount.delta hp
      rw [hn, hsame] at hmove
      exact ⟨clamp (n + amount.delta), clamp_clamp _, hwritten, htrans _ _ _ hrel hmove⟩

lemma keeps_increment (hkey : var.key ≠ "") (hs : s.locks.Unused) {amount : Amount}
    (hreply : (s.increment var amount).1 = .ok (.total r)) : ∃ x, Keeps x r ∧
      Backend.stored (s.increment var amount).2.backend var = some ("n:" ++ x.text) := by
  cases hfault : s.fault? (.increment var amount) with
  | some e =>
    have herror : (s.increment var amount).1 = .error e := returned hs hfault
    rw [herror] at hreply
    cases hreply
  | none =>
    obtain ⟨hreply', hstored⟩ := increment_of_success amount hkey hs hfault
    rw [hreply'] at hreply
    cases hreply
    have hwritten := hstored var
    rw [if_pos rfl] at hwritten
    exact ⟨_, keeps_ofInt (Bindings.clamp_total _ amount.clamp_delta), hwritten⟩

/-- An increment of a counter by zero leaves its text alone, whether it succeeds or not. -/
lemma stored_increment_zero (hkey : var.key ≠ "") (hs : s.locks.Unused) (hr : clamp r = r)
    (hfound : Backend.stored s.backend var = some (Value.number (.ofInt r)).encode)
    {amount : Amount} (hzero : amount.delta = 0) :
    Backend.stored (s.increment var amount).2.backend var = Backend.stored s.backend var := by
  cases hfault : s.fault? (.increment var amount) with
  | some e => exact congrFun ((failsAtomically hs _).texts e (returned hs hfault)) var
  | none =>
    obtain ⟨-, hstored⟩ := increment_of_success amount hkey hs hfault
    obtain ⟨n, hn, hsame, htotal⟩ := exists_total hr
    have hwritten := hstored var
    rw [if_pos rfl, hfound, htotal, hzero, Int.add_zero, hn, hsame] at hwritten
    rw [hwritten, hfound]

/-- A counter keeps what its increments answer.  In every run of a store in which an absent variable
is only read and incremented, an increment that succeeds stores the double nearest to its answer,
which is as good as the answer when it is read back, and one that fails stores nothing; one by zero
leaves the text alone.  While no delta is negative the number does not decrease, and while none is
positive it does not increase, at the bounds too. -/
theorem counter_coherent (hkey : var.key ≠ "") (hs : s.locks.Unused)
    (habsent : Backend.stored s.backend var = none) (hrun : s.CountedTo var (fun _ => True) s') :
    (∀ amount : Amount,
      (s'.fault? (.increment var amount) = none →
        ∃ r, (s'.increment var amount).1 = .ok (.total r)) ∧
      (∀ r, (s'.increment var amount).1 = .ok (.total r) → ∃ x, Keeps x r ∧
        Backend.stored (s'.increment var amount).2.backend var = some ("n:" ++ x.text)) ∧
      (∀ e, (s'.increment var amount).1 = .error e →
        Backend.stored (s'.increment var amount).2.backend var = Backend.stored s'.backend var) ∧
      (amount.delta = 0 → ∀ raw, Backend.stored s'.backend var = some raw →
        Backend.stored (s'.increment var amount).2.backend var = some raw)) ∧
    ∀ (x : Double) s'', Backend.stored s'.backend var = some ("n:" ++ x.text) →
      (s'.CountedTo var (0 ≤ ·) s'' → ∃ y : Double,
        Backend.stored s''.backend var = some ("n:" ++ y.text) ∧ x.value ≤ y.value) ∧
      (s'.CountedTo var (· ≤ 0) s'' → ∃ y : Double,
        Backend.stored s''.backend var = some ("n:" ++ y.text) ∧ y.value ≤ x.value) := by
  have hs' := hrun.unused hs
  have hcounter := hrun.isCounter hkey hs (.inl habsent)
  refine ⟨fun amount => ⟨fun hfault => ?_, fun r hreply => keeps_increment hkey hs' hreply,
    fun e herror => ?_, fun hzero raw hraw => ?_⟩, fun x s'' hfound => ?_⟩
  · exact ⟨_, (increment_of_success amount hkey hs' hfault).1⟩
  · exact congrFun ((failsAtomically hs' (.increment var amount)).texts e herror) var
  · obtain hnone | ⟨r, hr, hfound⟩ := hcounter
    · rw [hnone] at hraw
      cases hraw
    · rw [stored_increment_zero hkey hs' hr hfound hzero, hraw]
  · obtain hnone | ⟨r, hr, hfound'⟩ := hcounter
    · rw [hnone] at hfound
      cases hfound
    · obtain rfl : x = .ofInt r := by
        have hsame : (Value.number x).encode = (Value.number (.ofInt r)).encode :=
          Option.some.inj (hfound.symm.trans hfound')
        exact Value.number.inj (Value.encode_inj hsame)
      constructor
      · intro hup
        obtain ⟨r', -, hlast, hle⟩ := hup.related le_refl (fun _ _ _ => le_trans)
          (fun n delta hdelta => value_ofInt_clamp_le (by omega)) hkey hs' hr hfound'
        exact ⟨_, hlast, hle⟩
      · intro hdown
        obtain ⟨r', -, hlast, hle⟩ := hdown.related (R := (· ≥ ·)) le_refl
          (fun _ _ _ hfirst hsecond => hsecond.trans hfirst)
          (fun n delta hdelta => value_ofInt_clamp_le (by omega)) hkey hs' hr hfound'
        exact ⟨_, hlast, hle⟩

/-- A store with nothing in it. -/
def nothing : Store Memory where
  backend.map := .empty

/-- The store with a variable at the greatest integer, by one increment. -/
def full : Store Memory := (nothing.call (.increment ⟨.global, "n"⟩ (.int64 9223372036854775807))).2

/-- The greatest integer is kept as `2 ^ 63`, and stays so when nothing or something is added. -/
theorem counter_coherent_full :
    Backend.stored full.backend ⟨.global, "n"⟩ = some "n:9223372036854776000" ∧
      (full.increment ⟨.global, "n"⟩ .missing).1 = .ok (.total maxInt64) ∧
      (∃ x, Keeps x maxInt64 ∧
        Backend.stored (full.increment ⟨.global, "n"⟩ .missing).2.backend ⟨.global, "n"⟩ =
          some ("n:" ++ x.text)) ∧
      Backend.stored (full.increment ⟨.global, "n"⟩ .missing).2.backend ⟨.global, "n"⟩ =
        some "n:9223372036854776000" ∧
      ∃ y : Double, Backend.stored (full.increment ⟨.global, "n"⟩ (.uint32 9)).2.backend
        ⟨.global, "n"⟩ = some ("n:" ++ y.text) ∧ (Double.ofInt maxInt64).value ≤ y.value := by
  have hrun : nothing.CountedTo ⟨.global, "n"⟩ (fun _ => True) full :=
    .call .refl _ fun _ => .inr ⟨_, rfl, trivial⟩
  obtain ⟨hsteps, hmoves⟩ := counter_coherent (by decide) ⟨rfl, rfl⟩ (by decide +kernel) hrun
  obtain ⟨-, hkept, -, hzero⟩ := hsteps .missing
  have hfound : Backend.stored full.backend ⟨.global, "n"⟩ = some "n:9223372036854776000" := by
    decide +kernel
  have hreply : (full.increment ⟨.global, "n"⟩ .missing).1 = .ok (.total maxInt64) := by
    decide +kernel
  have htext : "n:" ++ (Double.ofInt maxInt64).text = "n:9223372036854776000" := by
    decide +kernel
  have hmore : full.CountedTo ⟨.global, "n"⟩ (0 ≤ ·)
      (full.call (.increment ⟨.global, "n"⟩ (.uint32 9))).2 :=
    .call .refl _ fun _ => .inr ⟨_, rfl, by decide⟩
  exact ⟨hfound, hreply, hkept _ hreply, hzero rfl _ hfound,
    (hmoves _ _ (htext ▸ hfound)).1 hmore⟩

end Store

end TypedVars
