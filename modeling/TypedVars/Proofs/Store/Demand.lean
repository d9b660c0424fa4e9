import TypedVars.Proofs.Backend.Calls
import TypedVars.Proofs.Store.Atomic

/-!
# Calls as calls on the backend

A call without a lock is refused, or it is one call on the backend and what it makes of the answer
(`Store.call_eq_demanded`).  `Call.demand` says which call that is, `Call.reply` and `Call.remark`
say what the call answers then, and what it counts and reports.  When the backend answers a failure
the call answers the same and has nothing else to say.

A locked call demands a read in the same way, but goes on from there to a write.
-/

namespace TypedVars

/-! ## What a call demands -/

/-- The call on a backend by which a value is written, or by which it is removed. -/
def BackendCall.ofWrite (var : VarId) : Option Value → BackendCall
  | some v => .set var v.encode
  | none => .unset var

/-- What a JSON value says to store: `null` says to remove the variable. -/
def Value.ofJsonOrNull : Json → Except StoreError (Option Value)
  | .null => .ok none
  | j => (Value.ofJson j).map some

namespace Call

/-- Whether a call addresses a variable without a key. -/
def isKeyless (c : Call) : Bool := c.var?.any (·.key = "")

/-- The first call on the backend that a call makes, or the failure with which it is refused before
it makes any. -/
def demand (c : Call) : Except StoreError BackendCall :=
  if c.isKeyless then .error .emptyKey
  else
    match c with
    | get var | isSet var | increment var _ | update var _ => .ok (.get var)
    | set var v => .ok (.ofWrite var v)
    | setJson var j => (Value.ofJsonOrNull j).map (.ofWrite var)
    | unset var => .ok (.unset var)
    | dump scope _ | dumpJson scope _ => .ok (.entries scope)

/-- The entries whose keys begin with a text. -/
def chosen (lead : String) (entries : List (String × String)) : List (String × String) :=
  entries.filter fun (key, _) => lead.toList.isPrefixOf key.toList

/-- The values of those entries that have one. -/
def valuesOf (entries : List (String × String)) : Dict Value :=
  .ofList (entries.filterMap fun (key, raw) => (Value.decode raw).value?.map fun v => (key, v))

/-- What a call without a lock makes of an answer of the backend. -/
def reply : Call → BackendAnswer → Reply
  | get _, .text raw => replyOf raw
  | isSet _, .text raw => .ok (.flag (raw.any (· ≠ "")))
  | dump _ lead, .listing entries => .ok (.listing (valuesOf (chosen lead entries)))
  | dumpJson _ lead, .listing entries =>
    .ok (.text (Store.listingJson (valuesOf (chosen lead entries))).text)
  | _, _ => .ok .done

/-- What a call without a lock counts and reports of an answer of the backend. -/
def remark (j : Journal) : Call → BackendAnswer → Journal
  | get var, .text (some raw) =>
    match Value.decode raw with
    | .undecodable => j.countDecodeError.emit (.undecodable var raw)
    | _ => j
  | dump scope lead, .listing entries | dumpJson scope lead, .listing entries =>
    Store.noteSkipped scope j (chosen lead entries)
  | _, _ => j

end Call

lemma Call.exists_of_isKeyless {c : Call} (h : c.isKeyless = true) :
    ∃ var, c.var? = some var ∧ var.key = "" := by
  unfold isKeyless at h
  cases hvar : c.var? with
  | none =>
    rw [hvar] at h
    cases h
  | some var =>
    rw [hvar] at h
    exact ⟨var, rfl, of_decide_eq_true h⟩

lemma Call.key_ne_of_isKeyless {c : Call} {var : VarId} (h : c.isKeyless = false)
    (hvar : c.var? = some var) : var.key ≠ "" := by
  rw [isKeyless, hvar] at h
  exact of_decide_eq_false h

/-- A locked call reads first. -/
lemma Call.demand_of_job? {c : Call} {var : VarId} {job : Job} (h : c.job? = some (var, job)) :
    c.demand = .ok (.get var) := by
  obtain ⟨hkey, ⟨amount, rfl, -⟩ | ⟨f, rfl, -⟩⟩ := job?_cases h <;>
    simp [demand, isKeyless, var?, hkey]

/-- A call is refused for want of a key, or because a JSON value is of no kind that variables
have. -/
lemma Call.demand_eq_error {c : Call} {e : StoreError} (h : c.demand = .error e) :
    e = .emptyKey ∨ ∃ kind, e = .unsupportedKind kind := by
  unfold demand at h
  split at h
  · cases h
    exact .inl rfl
  · cases c with
    | setJson var j =>
      cases j with
      | array items | object members =>
        cases h
        exact .inr ⟨_, rfl⟩
      | null | bool b | number n | string text => cases h
    | get var | set var v | unset var | isSet var | increment var amount | update var f
    | dump scope lead | dumpJson scope lead => cases h

lemma Call.eq_of_demand_get {var : VarId} {bc : BackendCall}
    (h : (Call.get var).demand = .ok bc) : bc = .get var := by
  unfold demand at h
  split at h
  · cases h
  · cases h
    rfl

/-- What a call makes of an answer is no failure, unless it reads a text that cannot be decoded. -/
lemma Call.reply_eq_error {c : Call} {answer : BackendAnswer} {e : StoreError}
    (h : c.reply answer = .error e) :
    ∃ var raw, c = .get var ∧ answer = .text (some raw) ∧ Value.decode raw = .undecodable ∧
      e = .undecodable raw := by
  unfold Call.reply at h
  split at h
  · next var raw =>
    cases raw with
    | none => cases h
    | some raw =>
      rw [replyOf] at h
      split at h
      · cases h
      · cases h
      · next hdecode =>
        cases h
        exact ⟨var, raw, rfl, rfl, hdecode, rfl⟩
  · cases h
  · cases h
  · cases h
  · cases h

/-! ## Making the demanded call -/

lemma failure?_map {ε α γ : Type} (f : α → γ) (x : Except ε α) :
    failure? (x.map f) = failure? x := by
  cases x <;> rfl

lemma eq_error_of_map_eq_error {ε α γ : Type} {f : α → γ} {x : Except ε α} {e : ε}
    (h : x.map f = .error e) : x = .error e := by
  apply eq_error_of_failure?
  rw [← failure?_map f, h]
  rfl

section

variable {β : Type} [Backend β]

lemma Store.readFailure?_eq (s : Store β) (var : VarId) :
    s.readFailure? var = failure? (Backend.call s.backend (.get var)).1 :=
  (failure?_map BackendAnswer.text _).symm

lemma Store.writeFailure?_eq (s : Store β) (var : VarId) (v : Option Value) :
    s.writeFailure? var v = failure? (Backend.call s.backend (.ofWrite var v)).1 := by
  cases v <;> exact (failure?_map (fun _ => BackendAnswer.done) _).symm

lemma Store.written_eq_call (s : Store β) (var : VarId) (v : Option Value) :
    s.written var v = (Backend.call s.backend (.ofWrite var v)).2 := by
  cases v <;> rfl

end

/-- A call on the backend that fails changes no text. -/
lemma AtomicBackend.stored_call_of_error {β : Type} [Backend β] [AtomicBackend β] {b : β}
    {c : BackendCall} {e : StoreError} (h : (Backend.call b c).1 = .error e) :
    Backend.stored (Backend.call b c).2 = Backend.stored b := by
  cases c with
  | get var => exact stored_get var b
  | set var raw => exact set_error (eq_error_of_map_eq_error h)
  | unset var => exact unset_error (eq_error_of_map_eq_error h)
  | entries scope => exact stored_entries scope b

lemma AtomicBackend.eq_stored_of_text {β : Type} [Backend β] [AtomicBackend β] {b : β}
    {var : VarId} {raw : Option String} (h : (Backend.call b (.get var)).1 = .ok (.text raw)) :
    raw = Backend.stored b var := by
  apply get_ok
  change (Backend.get var b).1.map BackendAnswer.text = .ok (.text raw) at h
  cases hget : (Backend.get var b).1 with
  | error e =>
    rw [hget] at h
    cases h
  | ok raw' =>
    rw [hget] at h
    cases h
    rfl

namespace Store

variable {β : Type} [Backend β] {s : Store β} {c : Call} {var : VarId} {e : StoreError}
  {bc : BackendCall} {answer : BackendAnswer}

/-- What a call comes to, once the backend has answered. -/
def heard (s : Store β) (c : Call) : Except StoreError BackendAnswer × β → Reply × Store β
  | (.error e, backend) => (.error e, { s with backend })
  | (.ok answer, backend) =>
    (c.reply answer, { s with backend, journal := c.remark s.journal answer })

/-- The call on the backend that a call demands, and what comes of it. -/
def demanded (s : Store β) (c : Call) : Reply × Store β :=
  match c.demand with
  | .error e => (.error e, s)
  | .ok bc => s.heard c (Backend.call s.backend bc)

omit [Backend β] in
lemma backend_heard (s : Store β) (c : Call) (x : Except StoreError BackendAnswer × β) :
    (s.heard c x).2.backend = x.2 := by
  obtain ⟨_ | _, backend⟩ := x <;> rfl

lemma get_eq_heard (hkey : var.key ≠ "") :
    s.get var = s.heard (.get var) (Backend.call s.backend (.get var)) := by
  rw [get, if_neg hkey, ask_eq]
  rcases hget : Backend.get var s.backend with ⟨e | _ | raw, backend⟩
  · simp only [Backend.call, hget]
    rfl
  · simp only [Backend.call, hget]
    rfl
  · simp only [Backend.call, hget]
    cases hdecode : Value.decode raw <;>
      simp [heard, Except.map, Call.reply, Call.remark, replyOf, note, hdecode]

lemma isSet_eq_heard (hkey : var.key ≠ "") :
    s.isSet var = s.heard (.isSet var) (Backend.call s.backend (.get var)) := by
  rw [isSet, if_neg hkey, ask_eq]
  rcases hget : Backend.get var s.backend with ⟨e | raw, backend⟩ <;>
  · simp only [Backend.call, hget]
    rfl

/-- The calls that write answer alike, and report nothing. -/
lemma put_eq_heard (hreply : ∀ answer, c.reply answer = .ok .done)
    (hremark : ∀ answer, c.remark s.journal answer = s.journal) (var : VarId)
    (v : Option Value) :
    s.put var v = s.heard c (Backend.call s.backend (.ofWrite var v)) := by
  cases v with
  | none =>
    rw [put, write, ask_eq]
    rcases hunset : Backend.unset var s.backend with ⟨e | _, backend⟩ <;>
      simp [Backend.call, BackendCall.ofWrite, hunset, heard, Except.map, hreply, hremark]
  | some v =>
    rw [put, write, ask_eq]
    rcases hset : Backend.set var v.encode s.backend with ⟨e | _, backend⟩ <;>
      simp [Backend.call, BackendCall.ofWrite, hset, heard, Except.map, hreply, hremark]

lemma setJson_eq_heard (hkey : var.key ≠ "") (j : Json) : s.setJson var j =
    match Value.ofJsonOrNull j with
    | .error e => (.error e, s)
    | .ok v => s.heard (.setJson var j) (Backend.call s.backend (.ofWrite var v)) := by
  have hput : ∀ v, s.put var v =
      s.heard (.setJson var j) (Backend.call s.backend (.ofWrite var v)) :=
    put_eq_heard (fun _ => rfl) (fun _ => rfl) var
  unfold setJson
  rw [if_neg hkey]
  cases j with
  | null => exact hput none
  | bool b => exact hput (some (.boolean b))
  | number n => exact hput (some (.number n.toDouble))
  | string text => exact hput (some (.string text))
  | array items | object members => rfl

lemma list_eq (s : Store β) (scope : Scope) (lead : String) : s.list scope lead =
    match Backend.entries scope s.backend with
    | (.error e, backend) => (.error e, { s with backend })
    | (.ok entries, backend) => (.ok (Call.valuesOf (Call.chosen lead entries)),
        { s with backend, journal := noteSkipped scope s.journal (Call.chosen lead entries) }) := by
  rw [list, ask_eq]
  rcases Backend.entries scope s.backend with ⟨e | entries, backend⟩ <;> rfl

/-- A call without a lock is the call on the backend that it demands. -/
theorem call_eq_demanded (s : Store β) (hjob : c.job? = none) : s.call c = s.demanded c := by
  cases hkeyless : c.isKeyless with
  | true =>
    obtain ⟨var, hvar, hkey⟩ := Call.exists_of_isKeyless hkeyless
    simp only [demanded, Call.demand, hkeyless, if_true]
    exact call_of_emptyKey s hvar hkey
  | false =>
    have hkey : ∀ var, c.var? = some var → var.key ≠ "" := fun var =>
      Call.key_ne_of_isKeyless hkeyless
    simp only [demanded, Call.demand, hkeyless, Bool.false_eq_true, if_false]
    cases c with
    | get var => exact get_eq_heard (hkey var rfl)
    | isSet var => exact isSet_eq_heard (hkey var rfl)
    | set var v =>
      rw [call, set, if_neg (hkey var rfl)]
      exact put_eq_heard (fun _ => rfl) (fun _ => rfl) var v
    | unset var =>
      rw [call, unset, if_neg (hkey var rfl)]
      exact put_eq_heard (fun _ => rfl) (fun _ => rfl) var none
    | setJson var j =>
      rw [call, setJson_eq_heard (hkey var rfl)]
      dsimp only
      cases Value.ofJsonOrNull j <;> rfl
    | increment var amount | update var f =>
      rw [Call.job?, if_neg (hkey var rfl)] at hjob
      cases hjob
    | dump scope lead | dumpJson scope lead =>
      simp only [call, dump, dumpJson, list_eq, Backend.call]
      rcases Backend.entries scope s.backend with ⟨e | entries, backend⟩ <;> rfl

/-! ## What comes of the answer -/

lemma call_eq_heard (hjob : c.job? = none) (h : c.demand = .ok bc) :
    s.call c = s.heard c (Backend.call s.backend bc) := by
  rw [call_eq_demanded s hjob, demanded, h]

omit [Backend β] in
lemma heard_of_error {x : Except StoreError BackendAnswer × β} (h : x.1 = .error e) :
    s.heard c x = (.error e, { s with backend := x.2 }) := by
  obtain ⟨_, backend⟩ := x
  cases h
  rfl

omit [Backend β] in
lemma heard_of_ok {x : Except StoreError BackendAnswer × β} (h : x.1 = .ok answer) :
    s.heard c x =
      (c.reply answer, { s with backend := x.2, journal := c.remark s.journal answer }) := by
  obtain ⟨_, backend⟩ := x
  cases h
  rfl

/-- A call that is refused does nothing. -/
lemma call_of_refused (h : c.demand = .error e) : s.call c = (.error e, s) := by
  have hjob : c.job? = none := by
    rw [Option.eq_none_iff_forall_ne_some]
    rintro ⟨var, job⟩ hjob
    rw [Call.demand_of_job? hjob] at h
    cases h
  rw [call_eq_demanded s hjob, demanded, h]

end Store

end TypedVars
