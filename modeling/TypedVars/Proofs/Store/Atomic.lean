import Mathlib.Tactic.Common
import TypedVars.Backend.Storage
import TypedVars.Proofs.Backend.RawMap
import TypedVars.Store.Call

/-!
# Backends with atomic calls

A backend is *atomic* (`AtomicBackend`) when each of its calls is one indivisible step: a read
answers the text that stands there, a write that succeeds changes the text of its variable and of no
other, and a call that fails changes no text at all.  Nothing is said about which calls fail, nor
about anything else that a backend may keep.  All backends of the library are atomic.

The second half says what the calls of a store do over such a backend, in terms of two questions to
the backend: whether a read fails now (`Store.readFailure?`), and whether a write does
(`Store.writeFailure?`).
-/

namespace TypedVars

/-- A backend each of whose calls is one indivisible step. -/
class AtomicBackend (β : Type) [Backend β] : Prop where
  stored_get (var : VarId) (b : β) :
    Backend.stored (Backend.get var b).2 = Backend.stored b
  get_ok {var : VarId} {b : β} {raw : Option String} (h : (Backend.get var b).1 = .ok raw) :
    raw = Backend.stored b var
  set_ok {var : VarId} {raw : String} {b : β} (h : (Backend.set var raw b).1 = .ok ())
    (v : VarId) : Backend.stored (Backend.set var raw b).2 v =
      if v = var then some raw else Backend.stored b v
  set_error {var : VarId} {raw : String} {b : β} {e : StoreError}
    (h : (Backend.set var raw b).1 = .error e) :
    Backend.stored (Backend.set var raw b).2 = Backend.stored b
  unset_ok {var : VarId} {b : β} (h : (Backend.unset var b).1 = .ok ()) (v : VarId) :
    Backend.stored (Backend.unset var b).2 v = if v = var then none else Backend.stored b v
  unset_error {var : VarId} {b : β} {e : StoreError} (h : (Backend.unset var b).1 = .error e) :
    Backend.stored (Backend.unset var b).2 = Backend.stored b
  stored_entries (scope : Scope) (b : β) :
    Backend.stored (Backend.entries scope b).2 = Backend.stored b

/-! ## The backends of the library -/

instance : AtomicBackend Memory where
  stored_get _ _ := rfl
  get_ok h := (Except.ok.inj h).symm
  set_ok {var raw b} _ v := RawMap.get?_set b.map var v raw
  set_error h := nomatch h
  unset_ok {var b} _ v := RawMap.get?_unset b.map var v
  unset_error h := nomatch h
  stored_entries _ _ := rfl

namespace Host

variable {b : Host} {var : VarId} {raw : String}

lemma get_eq : Backend.get var b = match b.refusal? .get with
    | some cause => (.error cause, b)
    | none => (.ok (b.map.get? var), b) := rfl

lemma set_eq : Backend.set var raw b = match b.refusal? .set with
    | some cause => (.error cause, b)
    | none => (.ok (), { b with map := b.map.set var raw }) := rfl

lemma unset_eq : Backend.unset var b = match b.refusal? .unset with
    | some cause => (.error cause, b)
    | none => (.ok (), { b with map := b.map.unset var }) := rfl

end Host

instance : AtomicBackend Host where
  stored_get var b := by
    rw [Host.get_eq]
    split <;> rfl
  get_ok {var b raw} h := by
    rw [Host.get_eq] at h
    split at h
    · cases h
    · exact (Except.ok.inj h).symm
  set_ok {var raw b} h v := by
    rw [Host.set_eq] at h ⊢
    split at h
    · cases h
    · exact RawMap.get?_set b.map var v raw
  set_error {var raw b e} h := by
    rw [Host.set_eq] at h ⊢
    split at h
    · rfl
    · cases h
  unset_ok {var b} h v := by
    rw [Host.unset_eq] at h ⊢
    split at h
    · cases h
    · exact RawMap.get?_unset b.map var v
  unset_error {var b e} h := by
    rw [Host.unset_eq] at h ⊢
    split at h
    · rfl
    · cases h
  stored_entries _ _ := rfl

namespace Document

variable {b : Document} {next : RawMap} {var : VarId}

/-- A document that is written is committed to memory. -/
lemma map_save_ok (h : (b.save next).1 = .ok ()) : (b.save next).2.map = next := by
  unfold save at h ⊢
  split at h
  · rfl
  · cases h

/-- A document that is not written is not committed. -/
lemma save_error {e : StoreError} (h : (b.save next).1 = .error e) : (b.save next).2 = b := by
  unfold save at h ⊢
  split at h
  · cases h
  · rfl

lemma unset_eq : Backend.unset var b =
    if (b.map.get? var).isSome then b.save (b.map.unset var) else (.ok (), b) := rfl

end Document

instance : AtomicBackend Document where
  stored_get _ _ := rfl
  get_ok h := (Except.ok.inj h).symm
  set_ok {var raw b} h v :=
    (congrArg (·.get? v) (Document.map_save_ok h)).trans (RawMap.get?_set b.map var v raw)
  set_error h := congrArg (·.map.get?) (Document.save_error h)
  unset_ok {var b} h v := by
    rw [Document.unset_eq] at h ⊢
    split at h
    · next hsome =>
      rw [if_pos hsome]
      exact (congrArg (·.get? v) (Document.map_save_ok h)).trans (RawMap.get?_unset b.map var v)
    · next hnone =>
      rw [if_neg hnone]
      split
      · next hv =>
        subst hv
        exact Option.not_isSome_iff_eq_none.1 hnone
      · rfl
  unset_error {var b e} h := by
    rw [Document.unset_eq] at h ⊢
    split at h
    · next hsome =>
      rw [if_pos hsome]
      exact congrArg (·.map.get?) (Document.save_error h)
    · cases h
  stored_entries _ _ := rfl

instance : AtomicBackend Storage where
  stored_get var b := by
    cases b with
    | memory b disk => exact AtomicBackend.stored_get var b
    | host b disk => exact AtomicBackend.stored_get var b
    | document b => exact AtomicBackend.stored_get var b
  get_ok {var b raw} h := by
    cases b with
    | memory b disk => exact AtomicBackend.get_ok (b := b) h
    | host b disk => exact AtomicBackend.get_ok (b := b) h
    | document b => exact AtomicBackend.get_ok (b := b) h
  set_ok {var raw b} h v := by
    cases b with
    | memory b disk => exact AtomicBackend.set_ok (b := b) h v
    | host b disk => exact AtomicBackend.set_ok (b := b) h v
    | document b => exact AtomicBackend.set_ok (b := b) h v
  set_error {var raw b e} h := by
    cases b with
    | memory b disk => exact AtomicBackend.set_error (b := b) h
    | host b disk => exact AtomicBackend.set_error (b := b) h
    | document b => exact AtomicBackend.set_error (b := b) h
  unset_ok {var b} h v := by
    cases b with
    | memory b disk => exact AtomicBackend.unset_ok (b := b) h v
    | host b disk => exact AtomicBackend.unset_ok (b := b) h v
    | document b => exact AtomicBackend.unset_ok (b := b) h v
  unset_error {var b e} h := by
    cases b with
    | memory b disk => exact AtomicBackend.unset_error (b := b) h
    | host b disk => exact AtomicBackend.unset_error (b := b) h
    | document b => exact AtomicBackend.unset_error (b := b) h
  stored_entries scope b := by
    cases b with
    | memory b disk => exact AtomicBackend.stored_entries scope b
    | host b disk => exact AtomicBackend.stored_entries scope b
    | document b => exact AtomicBackend.stored_entries scope b

/-! ## What the calls of a store do -/

/-- The failure of an answer, if it is one. -/
def failure? {ε α : Type} : Except ε α → Option ε
  | .error e => some e
  | .ok _ => none

lemma eq_ok_of_failure? {ε α : Type} {x : Except ε α} (h : failure? x = none) : ∃ a, x = .ok a := by
  cases x with
  | ok a => exact ⟨a, rfl⟩
  | error e => cases h

lemma eq_error_of_failure? {ε α : Type} {x : Except ε α} {e : ε} (h : failure? x = some e) :
    x = .error e := by
  cases x with
  | ok a => cases h
  | error e' => exact congrArg _ (Option.some.inj h)

/-- The value of a stored text for those who take an undecodable one for nothing. -/
def valueOf (raw : Option String) : Option Value := raw.bind fun r => (Value.decode r).value?

/-- What a stored text is for those who read it. -/
def replyOf : Option String → Reply
  | none => .ok (.value none)
  | some raw =>
    match Value.decode raw with
    | .absent => .ok (.value none)
    | .value v => .ok (.value (some v))
    | .undecodable => .error (.undecodable raw)

namespace Store

variable {β : Type} [Backend β]

/-- The failure that the backend would answer to a read of a variable now. -/
def readFailure? (s : Store β) (var : VarId) : Option StoreError :=
  failure? (Backend.get var s.backend).1

/-- The failure that the backend would answer now to the write of a value, or to the removal that
the lack of one means. -/
def writeFailure? (s : Store β) (var : VarId) (v : Option Value) : Option StoreError :=
  failure? (s.write var v).1

/-- A store whose backend is in another state; its locks and its time limit are the same. -/
structure Moved (s s' : Store β) (backend : β) : Prop where
  backend : s'.backend = backend
  locks : s'.locks = s.locks
  limit : s'.limit = s.limit

variable {s : Store β} {var v : VarId} {e : StoreError}

omit [Backend β] in
lemma ask_eq {α : Type} (s : Store β) (call : β → Except StoreError α × β) :
    s.ask call = ((call s.backend).1, { s with backend := (call s.backend).2 }) := rfl

/-! ### Reading -/

lemma moved_fetch (s : Store β) (var : VarId) :
    Moved s (s.fetch var).2 (Backend.get var s.backend).2 := by
  rcases hget : (Backend.get var s.backend).1 with e | _ | raw
  · simp only [fetch, ask_eq, hget]
    exact ⟨rfl, rfl, rfl⟩
  · simp only [fetch, ask_eq, hget]
    exact ⟨rfl, rfl, rfl⟩
  · simp only [fetch, ask_eq, hget]
    cases Value.decode raw <;> exact ⟨rfl, rfl, rfl⟩

lemma moved_get (s : Store β) (hkey : var.key ≠ "") :
    Moved s (s.get var).2 (Backend.get var s.backend).2 := by
  rcases hget : (Backend.get var s.backend).1 with e | _ | raw
  · simp only [get, if_neg hkey, ask_eq, hget]
    exact ⟨rfl, rfl, rfl⟩
  · simp only [get, if_neg hkey, ask_eq, hget]
    exact ⟨rfl, rfl, rfl⟩
  · simp only [get, if_neg hkey, ask_eq, hget]
    cases Value.decode raw <;> exact ⟨rfl, rfl, rfl⟩

lemma fetch_of_failure (h : s.readFailure? var = some e) : (s.fetch var).1 = .error e := by
  have hget := eq_error_of_failure? h
  simp only [fetch, ask_eq, hget]

lemma get_of_failure (hkey : var.key ≠ "") (h : s.readFailure? var = some e) :
    (s.get var).1 = .error e := by
  have hget := eq_error_of_failure? h
  simp only [get, if_neg hkey, ask_eq, hget]

section

variable [AtomicBackend β]

lemma fetch_of_success (h : s.readFailure? var = none) :
    (s.fetch var).1 = .ok (valueOf (Backend.stored s.backend var)) := by
  obtain ⟨raw, hget⟩ := eq_ok_of_failure? h
  rw [← AtomicBackend.get_ok hget]
  simp only [fetch, ask_eq, hget]
  cases raw with
  | none => rfl
  | some raw =>
    simp only [valueOf, Option.bind_some]
    cases Value.decode raw <;> rfl

lemma readFailure?_of_error (h : (s.fetch var).1 = .error e) : s.readFailure? var = some e := by
  cases hread : s.readFailure? var with
  | none =>
    rw [fetch_of_success hread] at h
    cases h
  | some e' =>
    rw [fetch_of_failure hread] at h
    cases h
    rfl

lemma get_of_success (hkey : var.key ≠ "") (h : s.readFailure? var = none) :
    (s.get var).1 = replyOf (Backend.stored s.backend var) := by
  obtain ⟨raw, hget⟩ := eq_ok_of_failure? h
  rw [← AtomicBackend.get_ok hget]
  simp only [get, if_neg hkey, ask_eq, hget]
  cases raw with
  | none => rfl
  | some raw =>
    simp only [replyOf]
    cases Value.decode raw <;> rfl

end

/-! ### Writing -/

/-- The state of the backend after a write. -/
def written (s : Store β) (var : VarId) (v : Option Value) : β := (s.write var v).2.backend

lemma moved_write (s : Store β) (var : VarId) (v : Option Value) :
    Moved s (s.write var v).2 (s.written var v) := by
  cases v <;> exact ⟨rfl, rfl, rfl⟩

lemma moved_put (s : Store β) (var : VarId) (v : Option Value) :
    Moved s (s.put var v).2 (s.written var v) := moved_write s var v

/-- The answer of a write and what it leaves in the backend go by the backend alone. -/
lemma write_congr {s s' : Store β} (h : s'.backend = s.backend) (var : VarId) (v : Option Value) :
    (s'.write var v).1 = (s.write var v).1 ∧ s'.written var v = s.written var v := by
  cases v with
  | none => simp only [write, written, ask_eq, h, and_self]
  | some v => simp only [write, written, ask_eq, h, and_self]

omit [Backend β] in
lemma moved_noteReset (s : Store β) (var : VarId) (reset : Option Int) :
    Moved s (s.noteReset var reset) s.backend := by
  cases reset <;> exact ⟨rfl, rfl, rfl⟩

/-- The write of a decision, with the note of a reset before it. -/
lemma commit_eq (s : Store β) (var : VarId) (job : Job) (current : Option Value) :
    (s.commit var job current).1 =
        (s.write var (job.decide current).written).1.map (fun _ => (job.decide current).answer) ∧
      Moved s (s.commit var job current).2 (s.written var (job.decide current).written) := by
  have hnote := moved_noteReset s var (job.decide current).reset
  obtain ⟨hanswer, hwritten⟩ :=
    write_congr hnote.backend var (job.decide current).written
  have hmoved := moved_write (s.noteReset var (job.decide current).reset) var
    (job.decide current).written
  have hkeep : Moved s ((s.noteReset var (job.decide current).reset).write var
      (job.decide current).written).2 (s.written var (job.decide current).written) :=
    ⟨hmoved.backend.trans hwritten, hmoved.locks.trans hnote.locks,
      hmoved.limit.trans hnote.limit⟩
  rw [← hanswer]
  unfold commit
  dsimp only
  split <;> next hw =>
    rw [hw] at hkeep ⊢
    exact ⟨rfl, hkeep⟩

lemma moved_commit (s : Store β) (var : VarId) (job : Job) (current : Option Value) :
    Moved s (s.commit var job current).2 (s.written var (job.decide current).written) :=
  (commit_eq s var job current).2

lemma commit_of_failure {job : Job} {current : Option Value}
    (h : s.writeFailure? var (job.decide current).written = some e) :
    (s.commit var job current).1 = .error e := by
  rw [(commit_eq s var job current).1, eq_error_of_failure? h]
  rfl

lemma commit_of_success {job : Job} {current : Option Value}
    (h : s.writeFailure? var (job.decide current).written = none) :
    (s.commit var job current).1 = .ok (job.decide current).answer := by
  obtain ⟨_, hwrite⟩ := eq_ok_of_failure? h
  rw [(commit_eq s var job current).1, hwrite]
  rfl

/-- The answer of a commit, by the failure of its write. -/
lemma fst_commit (s : Store β) (var : VarId) (job : Job) (current : Option Value) :
    (s.commit var job current).1 = (s.writeFailure? var (job.decide current).written).elim
      (.ok (job.decide current).answer) .error := by
  cases hwrite : s.writeFailure? var (job.decide current).written with
  | none => exact commit_of_success hwrite
  | some e => exact commit_of_failure hwrite

lemma writeFailure?_of_error {job : Job} {current : Option Value}
    (h : (s.commit var job current).1 = .error e) :
    s.writeFailure? var (job.decide current).written = some e := by
  cases hwrite : s.writeFailure? var (job.decide current).written with
  | none =>
    rw [commit_of_success hwrite] at h
    cases h
  | some e' =>
    rw [commit_of_failure hwrite] at h
    cases h
    rfl

omit [Backend β] in
lemma moved_conclude (s : Store β) (var : VarId) (job : Job) (reply : Reply) :
    Moved s (s.conclude var job reply) s.backend := by
  unfold conclude
  split <;> exact ⟨rfl, rfl, rfl⟩

section

variable [AtomicBackend β]

lemma stored_written_of_failure {value : Option Value} (h : s.writeFailure? var value = some e) :
    Backend.stored (s.written var value) = Backend.stored s.backend := by
  have hwrite := eq_error_of_failure? h
  cases value with
  | none => exact AtomicBackend.unset_error hwrite
  | some value => exact AtomicBackend.set_error hwrite

lemma stored_written_of_success {value : Option Value} (h : s.writeFailure? var value = none) :
    Backend.stored (s.written var value) v =
      if v = var then value.map Value.encode else Backend.stored s.backend v := by
  obtain ⟨_, hwrite⟩ := eq_ok_of_failure? h
  cases value with
  | none => exact AtomicBackend.unset_ok hwrite v
  | some value => exact AtomicBackend.set_ok hwrite v

/-- The text that a write leaves, by its failure. -/
lemma stored_written_self (value : Option Value) :
    Backend.stored (s.written var value) var = (s.writeFailure? var value).elim
      (value.map Value.encode) fun _ => Backend.stored s.backend var := by
  cases hwrite : s.writeFailure? var value with
  | none => rw [stored_written_of_success hwrite, if_pos rfl, Option.elim_none]
  | some e => rw [stored_written_of_failure hwrite, Option.elim_some]

/-- A write touches no other variable, whether it succeeds or not. -/
lemma stored_written_of_ne {value : Option Value} (h : v ≠ var) :
    Backend.stored (s.written var value) v = Backend.stored s.backend v := by
  cases hf : s.writeFailure? var value with
  | none => rw [stored_written_of_success hf, if_neg h]
  | some e => rw [stored_written_of_failure hf]

end

end Store

/-! ### A backend that fails no call -/

lemma Store.readFailure?_memory (s : Store Memory) (var : VarId) : s.readFailure? var = none := rfl

lemma Store.writeFailure?_memory (s : Store Memory) (var : VarId) (v : Option Value) :
    s.writeFailure? var v = none := by
  cases v <;> rfl

/-! ### Calls without a key -/

/-- A call on a variable without a key does nothing. -/
lemma Store.call_of_emptyKey {β : Type} [Backend β] (s : Store β) {c : Call} {var : VarId}
    (hvar : c.var? = some var) (hkey : var.key = "") : s.call c = (.error .emptyKey, s) := by
  cases c <;> cases hvar <;>
    simp [call, get, set, setJson, unset, isSet, increment, update, locked, hkey]

/-! ### Locked calls -/

namespace Call

variable {c : Call} {var : VarId} {job : Job}

/-- The calls that have a job are increments and updates of a variable with a key. -/
lemma job?_cases (h : c.job? = some (var, job)) : var.key ≠ "" ∧
    ((∃ amount, c = .increment var amount ∧ job = .increment amount.delta) ∨
      ∃ f, c = .update var f ∧ job = .update f) := by
  unfold job? at h
  split at h
  · next amount =>
    split at h
    · cases h
    · next hkey =>
      cases h
      exact ⟨hkey, .inl ⟨amount, rfl, rfl⟩⟩
  · next f =>
    split at h
    · cases h
    · next hkey =>
      cases h
      exact ⟨hkey, .inr ⟨f, rfl, rfl⟩⟩
  · cases h

lemma key_ne_of_job? (h : c.job? = some (var, job)) : var.key ≠ "" := (job?_cases h).1

lemma var?_of_job? (h : c.job? = some (var, job)) : c.var? = some var := by
  obtain ⟨-, ⟨amount, rfl, -⟩ | ⟨f, rfl, -⟩⟩ := job?_cases h <;> rfl

end Call

lemma Store.call_of_job? {β : Type} [Backend β] {s : Store β} {c : Call} {var : VarId} {job : Job}
    (h : c.job? = some (var, job)) : s.call c = s.locked var job := by
  obtain ⟨-, ⟨amount, rfl, rfl⟩ | ⟨f, rfl, rfl⟩⟩ := Call.job?_cases h <;> rfl

/-! ### Calls without a lock -/

/-- Whether a call is a plain write of a variable. -/
def Call.Writes (c : Call) (var : VarId) : Prop :=
  match c with
  | .set v _ | .setJson v _ | .unset v => v = var
  | _ => False

namespace Store

variable {β : Type} [Backend β] {s : Store β} {c : Call} {var v : VarId}

/-- What a call without a lock does to a store: nothing but to read, or one write of one
variable. -/
inductive Plain (s : Store β) (s' : Store β) (c : Call) : Prop where
  | still (h : Moved s s' s.backend)
  | get (var : VarId) (h : Moved s s' (Backend.get var s.backend).2)
  | entries (scope : Scope) (h : Moved s s' (Backend.entries scope s.backend).2)
  | write (var : VarId) (v : Option Value) (hc : c.Writes var) (h : Moved s s' (s.written var v))

lemma Plain.of_emptyKey (s : Store β) (c : Call) : Plain s s c := .still ⟨rfl, rfl, rfl⟩

lemma moved_list (s : Store β) (scope : Scope) (lead : String) :
    Moved s (s.list scope lead).2 (Backend.entries scope s.backend).2 := by
  rcases hentries : (Backend.entries scope s.backend).1 with e | entries <;>
  · simp only [list, ask_eq, hentries]
    exact ⟨rfl, rfl, rfl⟩

lemma plain_call (s : Store β) (hc : c.job? = none) : Plain s (s.call c).2 c := by
  cases c with
  | get var =>
    by_cases hkey : var.key = ""
    · simp only [call, get, if_pos hkey]
      exact .of_emptyKey s _
    · exact .get var (moved_get s hkey)
  | set var v =>
    by_cases hkey : var.key = ""
    · simp only [call, set, if_pos hkey]
      exact .of_emptyKey s _
    · simp only [call, set, if_neg hkey]
      exact .write var v rfl (moved_put s var v)
  | setJson var j =>
    by_cases hkey : var.key = ""
    · simp only [call, setJson, if_pos hkey]
      exact .of_emptyKey s _
    · simp only [call, setJson, if_neg hkey]
      split
      · exact .write var none rfl (moved_put s var none)
      · split
        · next v _ => exact .write var (some v) rfl (moved_put s var (some v))
        · exact .of_emptyKey s _
  | unset var =>
    by_cases hkey : var.key = ""
    · simp only [call, unset, if_pos hkey]
      exact .of_emptyKey s _
    · simp only [call, unset, if_neg hkey]
      exact .write var none rfl (moved_put s var none)
  | isSet var =>
    by_cases hkey : var.key = ""
    · simp only [call, isSet, if_pos hkey]
      exact .of_emptyKey s _
    · refine .get var ?_
      rcases hget : (Backend.get var s.backend).1 with e | raw <;>
      · simp only [call, isSet, if_neg hkey, ask_eq, hget]
        exact ⟨rfl, rfl, rfl⟩
  | increment var amount =>
    by_cases hkey : var.key = ""
    · simp only [call, increment, locked, if_pos hkey]
      exact .of_emptyKey s _
    · simp [Call.job?, hkey] at hc
  | update var f =>
    by_cases hkey : var.key = ""
    · simp only [call, update, locked, if_pos hkey]
      exact .of_emptyKey s _
    · simp [Call.job?, hkey] at hc
  | dump scope lead => exact .entries scope (moved_list s scope lead)
  | dumpJson scope lead => exact .entries scope (moved_list s scope lead)

lemma sameLocks_call (s : Store β) (hc : c.job? = none) :
    (s.call c).2.locks = s.locks ∧ (s.call c).2.limit = s.limit := by
  cases plain_call s hc with
  | still h => exact ⟨h.locks, h.limit⟩
  | get var h => exact ⟨h.locks, h.limit⟩
  | entries scope h => exact ⟨h.locks, h.limit⟩
  | write var v hc h => exact ⟨h.locks, h.limit⟩

/-- A call without a lock leaves alone what it does not write. -/
lemma stored_call [AtomicBackend β] (s : Store β) (hc : c.job? = none) (hw : ¬ c.Writes var) :
    Backend.stored (s.call c).2.backend var = Backend.stored s.backend var := by
  cases plain_call s hc with
  | still h => rw [h.backend]
  | get v h => rw [h.backend, AtomicBackend.stored_get]
  | entries scope h => rw [h.backend, AtomicBackend.stored_entries]
  | write v value hv h =>
    have hne : var ≠ v := by
      rintro rfl
      exact hw hv
    rw [h.backend, stored_written_of_ne hne]

end Store

end TypedVars
