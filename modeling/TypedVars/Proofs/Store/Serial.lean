import TypedVars.Proofs.Lock.Table
import TypedVars.Proofs.Store.Atomic

/-!
# Locked calls, one after another

Where nobody uses a lock, a locked call is granted its lock at once, so it is a read and then a
write of what it decides, and leaves the locks unused again (`Store.locked_alone`).  Such calls,
made one after another on a store of their own, are what calls at the same time are compared with:
the store is over a host's storage, which can be told to refuse a call, so that a call that failed
can be made again with the same failure (`Store.serve`).
-/

namespace TypedVars

namespace Store

/-! ## A locked call on its own -/

section

variable {β : Type} [Backend β] {s : Store β} {var : VarId} {job : Job} {e : StoreError}

/-- What a locked call is where nobody uses a lock. -/
structure Alone (s : Store β) (var : VarId) (job : Job) : Prop where
  unused : (s.locked var job).2.locks.Unused
  limit : (s.locked var job).2.limit = s.limit
  failed : ∀ e, s.readFailure? var = some e → (s.locked var job).1 = .error e ∧
    (s.locked var job).2.backend = (Backend.get var s.backend).2
  found : ∀ current, (s.fetch var).1 = .ok current →
    (s.locked var job).1 = ((s.fetch var).2.commit var job current).1 ∧
      (s.locked var job).2.backend = (s.fetch var).2.written var (job.decide current).written

/-- A read answers the same where the backend does, whatever the locks and the journal. -/
lemma fetch_congr {s s' : Store β}
    (h : (Backend.get var s'.backend).1 = (Backend.get var s.backend).1) :
    (s'.fetch var).1 = (s.fetch var).1 := by
  simp only [fetch, ask_eq, h]
  rcases (Backend.get var s.backend).1 with e | _ | raw
  · rfl
  · rfl
  · dsimp only
    cases Value.decode raw <;> rfl

omit [Backend β] in
/-- A free lock is granted to the first who asks, and is unused again when that one lets it go. -/
lemma request_unused (h : s.locks.Unused) (var : VarId) (t : Ticket) :
    (s.request var t).locks.holds t = true ∧ ((s.locks.request var t).release var t).Unused := by
  have hfresh : ∀ v, t ∉ s.locks.users v := by
    intro v hmem
    rw [h.users_eq_nil] at hmem
    cases hmem
  obtain ⟨hsound, husers⟩ := h.sound.request hfresh var
  have hline : (s.locks.request var t).users var = [t] := by
    rw [husers, if_pos rfl, h.users_eq_nil]
    rfl
  have hhead : ((s.locks.request var t).users var).head? = some t := by
    rw [hline]
    rfl
  obtain ⟨hsound', husers'⟩ := hsound.release hhead
  refine ⟨(hsound.holds_iff (List.mem_of_mem_head? hhead)).2 hhead, hsound'.unused ?_⟩
  intro v
  rw [husers']
  by_cases hv : v = var
  · rw [if_pos hv, hline]
    simp
  · rw [if_neg hv, husers, if_neg hv, h.users_eq_nil]

/-- A write under the lock answers the same whatever the locks and the journal. -/
lemma commit_congr {s s' : Store β} (h : s'.backend = s.backend) (var : VarId) (job : Job)
    (current : Option Value) : (s'.commit var job current).1 = (s.commit var job current).1 := by
  rw [(commit_eq s' var job current).1, (commit_eq s var job current).1, (write_congr h var _).1]

/-- Where nobody uses a lock, a locked call is granted its lock at once. -/
lemma locked_of_unused (hkey : var.key ≠ "") (h : s.locks.Unused) (job : Job) :
    s.locked var job =
      match ((s.request var soleTicket).granted var).fetch var with
      | (.error e, s) => (.error e, s.release var soleTicket)
      | (.ok current, s) =>
        ((s.commit var job current).1,
          ((s.commit var job current).2.release var soleTicket).conclude var job
            (s.commit var job current).1) :=
  (if_neg hkey).trans (if_pos (request_unused h var soleTicket).1)

theorem locked_alone (hkey : var.key ≠ "") (h : s.locks.Unused) (job : Job) : s.Alone var job := by
  have hunused := (request_unused h var soleTicket).2
  have hsame : ((s.request var soleTicket).granted var).backend = s.backend := rfl
  have hanswer : (((s.request var soleTicket).granted var).fetch var).1 = (s.fetch var).1 :=
    fetch_congr (by rw [hsame])
  have hfetch := moved_fetch ((s.request var soleTicket).granted var) var
  have hfetch' := moved_fetch s var
  have heq := locked_of_unused hkey h job
  rcases hf : ((s.request var soleTicket).granted var).fetch var with ⟨_ | current, s'⟩
  · next e =>
    rw [hf] at heq hanswer hfetch
    have hlocks : s'.locks = s.locks.request var soleTicket := hfetch.locks
    refine ⟨?_, ?_, ?_, ?_⟩
    · rw [heq]
      change (s'.locks.release var soleTicket).Unused
      rw [hlocks]
      exact hunused
    · rw [heq]
      exact hfetch.limit
    · intro e' he'
      rw [fetch_of_failure he'] at hanswer
      cases hanswer
      rw [heq]
      exact ⟨rfl, hfetch.backend⟩
    · intro current hcurrent
      rw [hcurrent] at hanswer
      cases hanswer
  · rw [hf] at heq hanswer hfetch
    have hbackend : s'.backend = (s.fetch var).2.backend :=
      hfetch.backend.trans hfetch'.backend.symm
    have hcommit := moved_commit s' var job current
    have hconclude := moved_conclude ((s'.commit var job current).2.release var soleTicket) var job
      (s'.commit var job current).1
    have hlocks : (s'.commit var job current).2.locks = s.locks.request var soleTicket :=
      hcommit.locks.trans hfetch.locks
    refine ⟨?_, ?_, ?_, ?_⟩
    · rw [heq]
      dsimp only
      rw [hconclude.locks]
      change ((s'.commit var job current).2.locks.release var soleTicket).Unused
      rw [hlocks]
      exact hunused
    · rw [heq]
      exact hconclude.limit.trans (hcommit.limit.trans hfetch.limit)
    · intro e' he'
      rw [fetch_of_failure he'] at hanswer
      cases hanswer
    · intro current' hcurrent
      rw [hcurrent] at hanswer
      cases hanswer
      rw [heq]
      exact ⟨commit_congr hbackend var job current,
        hconclude.backend.trans (hcommit.backend.trans (write_congr hbackend var _).2)⟩

end

end Store

/-! ## Calls with given failures -/

/-- The failure of the call by which a value is written, or by which it is removed. -/
def Fault.ofWrite (v : Option Value) (cause : StoreError) : Fault :=
  ⟨if v.isSome then .set else .unset, cause⟩

/-- A locked call that was granted its lock and has come to its answer. -/
structure Service where
  ticket : Ticket
  job : Job
  /-- The failure that the backend answered to it, if any. -/
  fault : Option Fault
  /-- What its function was given, if it came so far. -/
  seen : Option (Option Value)
  reply : Reply

namespace Store

/-- A store in which one variable has a text, or none has. -/
def holding (var : VarId) (raw : Option String) : Store Host :=
  { backend := { map := raw.elim .empty (RawMap.empty.set var) } }

/-- From now on the backend refuses a call, or none. -/
def facing (s : Store Host) (fault : Option Fault) : Store Host :=
  { s with backend := { s.backend with fault } }

/-- Makes a locked call that meets a failure, or none: what its function is given, if it comes so
far, and what it answers. -/
def serve (s : Store Host) (var : VarId) (job : Job) (fault : Option Fault) :
    (Option (Option Value) × Reply) × Store Host :=
  ((((s.facing fault).fetch var).1.toOption, ((s.facing fault).locked var job).1),
    ((s.facing fault).locked var job).2)

/-- The store after some services, made one after another. -/
def serial (var : VarId) (raw : Option String) (services : List Service) : Store Host :=
  services.foldl (fun s x => (s.serve var x.job x.fault).2) (holding var raw)

/-- Each service is what the call does when the ones before it have been made one after another. -/
def Replayed (var : VarId) (raw : Option String) (services : List Service) : Prop :=
  ∀ pre x post, services = pre ++ x :: post →
    ((serial var raw pre).serve var x.job x.fault).1 = (x.seen, x.reply)

lemma replayed_nil (var : VarId) (raw : Option String) : Replayed var raw [] := by
  intro pre x post heq
  have hlen := congrArg List.length heq
  simp at hlen

/-- One more service is replayed after the ones before it. -/
lemma Replayed.concat {var : VarId} {raw : Option String} {services : List Service} {x : Service}
    (h : Replayed var raw services)
    (hx : ((serial var raw services).serve var x.job x.fault).1 = (x.seen, x.reply)) :
    Replayed var raw (services ++ [x]) := by
  intro pre y post heq
  rcases List.eq_nil_or_concat post with rfl | ⟨post', z, rfl⟩
  · obtain ⟨hpre, hy⟩ := List.append_inj' heq rfl
    cases hy
    rw [← hpre]
    exact hx
  · have hsplit : services ++ [x] = (pre ++ y :: post') ++ [z] := by simpa using heq
    obtain ⟨hpre, -⟩ := List.append_inj' hsplit rfl
    exact h pre y post' hpre

/-- The services before the last one are replayed too. -/
lemma Replayed.of_concat {var : VarId} {raw : Option String} {services : List Service} {x : Service}
    (h : Replayed var raw (services ++ [x])) : Replayed var raw services :=
  fun pre y post heq => h pre y (post ++ [x]) (by rw [heq, List.append_assoc, List.cons_append])

lemma serial_concat (var : VarId) (raw : Option String) (services : List Service) (x : Service) :
    serial var raw (services ++ [x]) = ((serial var raw services).serve var x.job x.fault).2 := by
  simp [serial]

lemma stored_holding (var : VarId) (raw : Option String) :
    Backend.stored (holding var raw).backend var = raw := by
  cases raw with
  | none => rfl
  | some raw => exact RawMap.get?_set_self .empty var raw

section

variable {s : Store Host} {var : VarId} {job : Job} {e : StoreError}

lemma stored_facing (s : Store Host) (fault : Option Fault) :
    Backend.stored (s.facing fault).backend = Backend.stored s.backend := rfl

lemma stored_host_get (s : Store Host) (var : VarId) :
    (Backend.get var s.backend).2 = s.backend := by
  rw [Host.get_eq]
  split <;> rfl

lemma readFailure?_facing_get (s : Store Host) (var : VarId) (e : StoreError) :
    (s.facing (some ⟨.get, e⟩)).readFailure? var = some e := rfl

lemma readFailure?_facing_ofWrite (s : Store Host) (var : VarId) (v : Option Value)
    (failure : Option StoreError) :
    (s.facing (failure.map (Fault.ofWrite v))).readFailure? var = none := by
  cases failure with
  | none => rfl
  | some e => cases v <;> rfl

lemma writeFailure?_facing_ofWrite (s : Store Host) (var : VarId) (v : Option Value)
    (failure : Option StoreError) :
    (s.facing (failure.map (Fault.ofWrite v))).writeFailure? var v = failure := by
  cases failure with
  | none => cases v <;> rfl
  | some e => cases v <;> rfl

/-- A call that cannot read sees nothing and changes nothing. -/
lemma serve_failed (hkey : var.key ≠ "") (h : s.locks.Unused) (job : Job) (e : StoreError) :
    (s.serve var job (some ⟨.get, e⟩)).1 = (none, .error e) ∧
      Backend.stored (s.serve var job (some ⟨.get, e⟩)).2.backend = Backend.stored s.backend ∧
      (s.serve var job (some ⟨.get, e⟩)).2.locks.Unused := by
  have hread := readFailure?_facing_get s var e
  have halone := locked_alone (s := s.facing (some ⟨.get, e⟩)) hkey h job
  obtain ⟨hreply, hbackend⟩ := halone.failed e hread
  refine ⟨?_, ?_, halone.unused⟩
  · rw [serve, fetch_of_failure hread, hreply]
    rfl
  · rw [serve, hbackend, stored_host_get, stored_facing]

/-- A call that can read sees the value that is there, and writes what it decides unless the write
fails. -/
lemma serve_found (hkey : var.key ≠ "") (h : s.locks.Unused) (job : Job)
    (failure : Option StoreError) :
    let current := valueOf (Backend.stored s.backend var)
    let after := s.serve var job (failure.map (Fault.ofWrite (job.decide current).written))
    after.1 = (some current, failure.elim (.ok (job.decide current).answer) .error) ∧
      Backend.stored after.2.backend var =
        failure.elim ((job.decide current).written.map Value.encode)
          (fun _ => Backend.stored s.backend var) ∧
      after.2.locks.Unused := by
  intro current after
  have hread := readFailure?_facing_ofWrite s var (job.decide current).written failure
  have hwrite := writeFailure?_facing_ofWrite s var (job.decide current).written failure
  have hfetch := fetch_of_success hread
  rw [stored_facing] at hfetch
  have halone := locked_alone
    (s := s.facing (failure.map (Fault.ofWrite (job.decide current).written))) hkey h job
  obtain ⟨hreply, hbackend⟩ := halone.found current hfetch
  have hsame := (moved_fetch (s.facing (failure.map
    (Fault.ofWrite (job.decide current).written))) var).backend
  rw [stored_host_get] at hsame
  rw [commit_congr hsame] at hreply
  rw [(write_congr hsame var _).2] at hbackend
  refine ⟨?_, ?_, halone.unused⟩
  · change (((s.facing _).fetch var).1.toOption, ((s.facing _).locked var job).1) = _
    rw [hfetch, hreply, fst_commit, hwrite]
    rfl
  · change Backend.stored ((s.facing _).locked var job).2.backend var = _
    rw [hbackend, stored_written_self, hwrite, stored_facing]

end

end Store

end TypedVars
