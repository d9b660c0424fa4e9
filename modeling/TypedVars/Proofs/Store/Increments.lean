import TypedVars.Proofs.Store.Linear
import TypedVars.Proofs.Store.Progress
import TypedVars.Proofs.Value

/-!
# Increments at the same time

Increments of one variable, made at the same time, add up.  As long as no total can leave the
integers that doubles tell apart, every step from one total to the next is exact: the text is read
as the number that was written, its integer part is the total before, and the new total is written
with all its digits (`Store.serve_increment`).  So a series of increments answers its running
totals (`Store.Replayed.increments`), and by the ledger of the variable the increments of a system
are such a series, in the order in which their locks were granted (`System.Counted`).
-/

namespace TypedVars

/-- The sum of the amounts so far, from a start on. -/
def runningTotals (start : Int) : List Int → List Int
  | [] => []
  | d :: ds => (start + d) :: runningTotals (start + d) ds

lemma runningTotals_concat (start : Int) (ds : List Int) (d : Int) :
    runningTotals start (ds ++ [d]) = runningTotals start ds ++ [start + ds.sum + d] := by
  induction ds generalizing start with
  | nil => simp [runningTotals]
  | cons first rest ih =>
    rw [List.cons_append, runningTotals, ih, runningTotals, List.sum_cons, List.cons_append,
      Int.add_assoc start first]

/-- A total is at most as far from zero as the start and the amounts are together. -/
lemma natAbs_add_sum_le (start : Int) (ds : List Int) :
    (start + ds.sum).natAbs ≤ start.natAbs + (ds.map Int.natAbs).sum := by
  induction ds generalizing start with
  | nil => simp
  | cons d ds ih =>
    have hrest := ih (start + d)
    simp only [List.sum_cons, List.map_cons]
    omega

/-- What is stored for a variable counts as an integer: nothing as zero, and a number as the integer
that it is equal to. -/
inductive CountsAs (raw : Option String) : Int → Prop where
  | absent (h : raw.elim .absent Value.decode = .absent) : CountsAs raw 0
  | number {x : Double} {i : Int} (h : raw.elim .absent Value.decode = .value (.number x))
      (hx : x.IsInteger i) : CountsAs raw i

namespace CountsAs

variable {raw : Option String} {i d : Int}

/-- The text of a total counts as that total. -/
lemma text (hi : i.natAbs ≤ 2 ^ 53) : CountsAs (some ("n:" ++ toString i)) i := by
  refine .number (x := .ofInt i) ?_ (Double.isInteger_ofInt hi)
  rw [Option.elim_some, ← Value.encode_ofInt hi, Value.decode_encode]

/-- The integer that an increment finds, if it finds one. -/
lemma integer? (h : CountsAs raw i) (hi : i.natAbs ≤ 2 ^ 53) :
    (valueOf raw = none ∧ i = 0) ∨ (valueOf raw).bind Value.integer? = some i := by
  cases h with
  | absent h =>
    refine .inl ⟨?_, rfl⟩
    cases raw with
    | none => rfl
    | some r =>
      rw [Option.elim_some] at h
      rw [valueOf, Option.bind_some, h]
      rfl
  | @number x i h hx =>
    have hvalue : valueOf raw = some (.number x) := by
      cases raw with
      | none => cases h
      | some r =>
        rw [Option.elim_some] at h
        rw [valueOf, Option.bind_some, h]
        rfl
    have hclamp : clamp i = i := by
      unfold clamp minInt64 maxInt64
      omega
    rw [hvalue, Option.bind_some, Value.integer?, Double.toInt64?, hx.truncate?_eq, Option.map_some,
      hclamp]
    exact .inr rfl

/-- An increment writes and answers the sum. -/
lemma decide_increment (h : CountsAs raw i) (hi : i.natAbs ≤ 2 ^ 53)
    (hnext : (i + d).natAbs ≤ 2 ^ 53) :
    ((Job.increment d).decide (valueOf raw)).written = some (.number (.ofInt (i + d))) ∧
      ((Job.increment d).decide (valueOf raw)).answer = .total (i + d) := by
  have hclamp : clamp (i + d) = i + d := by
    unfold clamp minInt64 maxInt64
    omega
  rcases h.integer? hi with ⟨hnone, rfl⟩ | hbase
  · rw [hnone, Int.zero_add]
    exact ⟨rfl, rfl⟩
  · simp only [Job.decide, hbase, hclamp, and_self]

end CountsAs

/-! ## One increment after another -/

/-- The amount of an increment. -/
def Job.delta? : Job → Option Int
  | .increment d => some d
  | .update _ => none

namespace Store

variable {s : Store Host} {var : VarId} {raw : Option String} {i b d : Int} {xs : List Service}

/-- An increment that meets no failure answers the next total and leaves its digits. -/
lemma serve_increment (hkey : var.key ≠ "") (hunused : s.locks.Unused)
    (h : CountsAs (Backend.stored s.backend var) i) (hi : i.natAbs ≤ 2 ^ 53)
    (hnext : (i + d).natAbs ≤ 2 ^ 53) :
    (s.serve var (.increment d) none).1.2 = .ok (.total (i + d)) ∧
      Backend.stored (s.serve var (.increment d) none).2.backend var =
        some ("n:" ++ toString (i + d)) := by
  obtain ⟨hwritten, hanswer⟩ := h.decide_increment hi hnext
  obtain ⟨hreply, htext, -⟩ := serve_found hkey hunused (.increment d) none
  rw [hanswer] at hreply
  rw [hwritten] at htext
  refine ⟨congrArg Prod.snd hreply, htext.trans ?_⟩
  exact congrArg some (Value.encode_ofInt hnext)

/-- What a series of increments comes to, from an integer on. -/
structure Totals (var : VarId) (raw : Option String) (b : Int) (xs : List Service) : Prop where
  replies : xs.map (·.reply) =
    (runningTotals b (xs.filterMap (·.job.delta?))).map fun n => .ok (.total n)
  counts : CountsAs (Backend.stored (serial var raw xs).backend var)
    (b + (xs.filterMap (·.job.delta?)).sum)
  text : xs ≠ [] → Backend.stored (serial var raw xs).backend var =
    some ("n:" ++ toString (b + (xs.filterMap (·.job.delta?)).sum))

/-- Increments that meet no failure, made one after another, answer their running totals. -/
lemma Replayed.increments (hreplay : Replayed var raw xs) (hkey : var.key ≠ "")
    (h : CountsAs raw b)
    (hroom : b.natAbs + ((xs.filterMap (·.job.delta?)).map Int.natAbs).sum ≤ 2 ^ 53)
    (hxs : ∀ x ∈ xs, x.fault = none ∧ ∃ d, x.job = .increment d) : Totals var raw b xs := by
  induction xs using List.reverseRecOn with
  | nil =>
    refine ⟨rfl, ?_, fun hne => absurd rfl hne⟩
    rw [List.filterMap_nil, List.sum_nil, Int.add_zero]
    exact (stored_holding var raw).symm ▸ h
  | append_singleton xs x ih =>
    obtain ⟨hfault, d, hjob⟩ := hxs x (List.mem_append_right _ (List.mem_singleton_self x))
    have hds : (xs ++ [x]).filterMap (·.job.delta?) = xs.filterMap (·.job.delta?) ++ [d] := by
      simp [hjob, Job.delta?]
    rw [hds] at hroom
    have hnext := natAbs_add_sum_le b (xs.filterMap (·.job.delta?) ++ [d])
    simp only [List.map_append, List.sum_append, List.map_cons, List.map_nil, List.sum_cons,
      List.sum_nil] at hroom hnext
    have hlast := natAbs_add_sum_le b (xs.filterMap (·.job.delta?))
    have ht := ih hreplay.of_concat (by omega)
      fun y hy => hxs y (List.mem_append_left _ hy)
    obtain ⟨hreply, htext⟩ := serve_increment (d := d) hkey (unused_serial hkey raw xs) ht.counts
      (by omega) (by omega)
    have hx := hreplay xs x [] rfl
    rw [hfault, hjob] at hx
    rw [hx] at hreply
    have hsum : b + (xs.filterMap (·.job.delta?) ++ [d]).sum =
        b + (xs.filterMap (·.job.delta?)).sum + d := by
      simp only [List.sum_append, List.sum_cons, List.sum_nil]
      omega
    rw [← hjob, ← hfault, ← serial_concat, ← hsum] at htext
    rw [← hsum] at hreply
    refine ⟨?_, ?_, fun _ => by rw [hds]; exact htext⟩
    · rw [hds, runningTotals_concat, List.map_append, List.map_append, ht.replies, ← hsum]
      exact congrArg (_ ++ [·]) hreply
    · rw [hds, htext]
      exact .text (by rw [hsum]; omega)

end Store

/-! ## Increments in a system -/

/-- The amount of a call, if it is an increment of a variable. -/
def Call.delta? (c : Call) (var : VarId) : Option Int :=
  c.job?.bind fun (v, job) => if v = var then job.delta? else none

lemma Call.delta?_eq {c : Call} {var : VarId} {job : Job} (h : c.job? = some (var, job)) :
    c.delta? var = job.delta? := by
  rw [delta?, h, Option.bind_some]
  exact if_pos rfl

lemma Call.job?_of_delta? {c : Call} {var : VarId} {d : Int} (h : c.delta? var = some d) :
    c.job? = some (var, .increment d) := by
  obtain ⟨⟨v, job⟩, hjob, hd⟩ := Option.bind_eq_some_iff.1 h
  dsimp only at hd
  split at hd
  · next hv =>
    cases job with
    | increment d' =>
      cases hd
      rw [hjob, hv]
    | update f => cases hd
  · cases hd

/-- The answer of a task that has one. -/
def Stage.reply? : Stage → Option Reply
  | .answered _ reply => some reply
  | _ => none

namespace System

section

variable {β : Type} (sys : System β) (var : VarId)

/-- The amount of a task, if its call is an increment of a variable. -/
def amount? (t : Ticket) : Option Int := sys.tasks[t]?.bind (·.call.delta? var)

/-- The answer of a task, if it has one. -/
def reply? (t : Ticket) : Option Reply := sys.tasks[t]?.bind (·.stage.reply?)

/-- The tickets of the increments of a variable. -/
def callers : List Ticket :=
  (List.range sys.tasks.length).filter fun t => (sys.amount? var t).isSome

/-- The amounts of the increments of a variable. -/
def amounts : List Int := sys.tasks.filterMap (·.call.delta? var)

lemma filterMap_callers : (sys.callers var).filterMap (sys.amount? var) = sys.amounts var := by
  have hrange : ∀ tasks : List Task, (List.range tasks.length).filterMap
      (fun t => tasks[t]?.bind (·.call.delta? var)) = tasks.filterMap (·.call.delta? var) := by
    intro tasks
    induction tasks using List.reverseRecOn with
    | nil => rfl
    | append_singleton tasks task ih =>
      rw [List.length_append, List.length_singleton, List.range_succ, List.filterMap_append,
        List.filterMap_append, ← ih]
      refine congrArg₂ (· ++ ·) (List.filterMap_congr ?_) ?_
      · intro t ht
        rw [List.getElem?_append_left (List.mem_range.1 ht)]
      · simp only [List.filterMap_cons, List.filterMap_nil, List.getElem?_concat_length,
          Option.bind_some]
  rw [callers, List.filterMap_filter, amounts, ← hrange]
  apply List.filterMap_congr
  intro t _
  change (if (sys.amount? var t).isSome then sys.amount? var t else none) = sys.amount? var t
  cases sys.amount? var t <;> rfl

end

variable {β : Type} [Backend β] {sys : System β} {ms : List (Move β)} {var : VarId} {b : Int}

/-- A run with increments of a variable that nobody writes in another way, in which no increment was
refused its lock or met a failure of the backend. -/
structure Counting (sys : System β) (ms : List (Move β)) (var : VarId) (b : Int) : Prop where
  fresh : sys.Fresh
  calm : sys.Calm ms var
  /-- Every locked call of the variable is an increment, and there is one. -/
  increments : ∀ task ∈ sys.tasks, ∀ job, task.call.job? = some (var, job) →
    ∃ d, job = .increment d
  nonempty : sys.amounts var ≠ []
  /-- At first the variable counts as an integer. -/
  base : CountsAs (Backend.stored sys.store.backend var) b
  /-- No total can be an integer that is not a double. -/
  room : b.natAbs + ((sys.amounts var).map Int.natAbs).sum ≤ 2 ^ 53
  /-- The backend did not fail a call of an increment. -/
  reliable : ∀ d ∈ sys.history ms, ∀ job, d.call.job? = some (var, job) → d.fault = none
  /-- No increment was refused its lock. -/
  punctual : ∀ task ∈ (sys.moves ms).tasks, ∀ job, task.call.job? = some (var, job) →
    ∀ time limit, task.stage ≠ .answered time (.error (.lockTimeout var limit))

/-- What the increments of a variable come to: each of them is granted the lock once and answers the
total that is reached in the order of the grants, and the text that is left is the whole total. -/
structure Counted (sys : System β) (ms : List (Move β)) (var : VarId) (b : Int) : Prop where
  granted : (grants (sys.history ms) var).Perm (sys.callers var)
  succeeded : ∀ t ∈ sys.callers var, ∃ n, (sys.moves ms).reply? t = some (.ok (.total n))
  replies : (grants (sys.history ms) var).map (sys.moves ms).reply? =
    (runningTotals b ((grants (sys.history ms) var).filterMap (sys.amount? var))).map
      fun n => some (.ok (.total n))
  text : Backend.stored (sys.moves ms).store.backend var =
    some ("n:" ++ toString (b + (sys.amounts var).sum))

omit [Backend β] in
lemma mem_callers {t : Ticket} {d : Int} (h : sys.amount? var t = some d) :
    t ∈ sys.callers var := by
  refine List.mem_filter.2 ⟨List.mem_range.2 ?_, by rw [h]; rfl⟩
  obtain ⟨task, ht, -⟩ := Option.bind_eq_some_iff.1 h
  obtain ⟨hlt, -⟩ := List.getElem?_eq_some_iff.1 ht
  exact hlt

/-- The services of such a run are increments that met no failure. -/
lemma Counting.of_mem_services (h : sys.Counting ms var b) {x : Service}
    (hx : x ∈ services (sys.history ms) var) :
    x.fault = none ∧ ∃ d, x.job = .increment d ∧ sys.amount? var x.ticket = some d := by
  obtain ⟨⟨task, ht, hjob⟩, d, hd, hjob', hfault⟩ := exists_of_mem_services hx
  obtain ⟨delta, hdelta⟩ := h.increments task (List.mem_of_getElem? ht) x.job hjob
  refine ⟨hfault ▸ h.reliable d hd x.job hjob', delta, hdelta, ?_⟩
  rw [amount?, ht, Option.bind_some, Call.delta?_eq hjob, hdelta]
  rfl

lemma Counting.key_ne (h : sys.Counting ms var b) : var.key ≠ "" := by
  obtain ⟨d, hd⟩ := List.exists_mem_of_ne_nil _ h.nonempty
  obtain ⟨task, -, hdelta⟩ := List.mem_filterMap.1 hd
  exact Call.key_ne_of_job? (Call.job?_of_delta? hdelta)

variable [AtomicBackend β]

/-- An increment of such a run was served, if it has its answer, and answered what it was served. -/
lemma Counting.served (h : sys.Counting ms var b) (hdone : (sys.moves ms).Done) {t : Ticket}
    (ht : t ∈ sys.callers var) : ∃ x ∈ services (sys.history ms) var,
      x.ticket = t ∧ (sys.moves ms).reply? t = some x.reply := by
  obtain ⟨hrange, hsome⟩ := List.mem_filter.1 ht
  have hlt : t < (sys.moves ms).tasks.length := by
    rw [length_moves]
    exact List.mem_range.1 hrange
  have htask : (sys.moves ms).tasks[t]? = some (sys.moves ms).tasks[t] :=
    List.getElem?_eq_getElem hlt
  generalize (sys.moves ms).tasks[t] = task at htask
  obtain ⟨task', ht', hcall, -⟩ := exists_of_moves ms htask
  obtain ⟨d, hd⟩ := Option.isSome_iff_exists.1 hsome
  rw [amount?, ht', Option.bind_some, ← hcall] at hd
  have hjob := Call.job?_of_delta? hd
  have hmem := List.mem_of_getElem? htask
  have hanswered := hdone task hmem
  have hstands := (h.calm.ledger h.fresh).stands t task _ htask hjob
  cases hstage : task.stage with
  | waiting | queued since | reading due | deciding current | leaving reply =>
    rw [hstage] at hanswered
    cases hanswered
  | answered time reply =>
    rw [hstage] at hstands
    rcases hstands with ⟨x, hx, hticket, -, hreply⟩ | ⟨-, limit, -, hreply⟩
    · refine ⟨x, hx, hticket, ?_⟩
      rw [reply?, htask, Option.bind_some, hstage, hreply]
      rfl
    · rw [hreply] at hstage
      exact absurd hstage (h.punctual task hmem _ hjob time limit)

/-- When every task has its answer, the lock has been granted to the services alone. -/
lemma Counting.grants_eq (h : sys.Counting ms var b) (hdone : (sys.moves ms).Done) :
    grants (sys.history ms) var = (services (sys.history ms) var).map (·.ticket) := by
  apply (h.calm.ledger h.fresh).settled
  intro t task job ht _
  have hanswered := hdone task (List.mem_of_getElem? ht)
  revert hanswered
  cases task.stage <;> intro hanswered <;> first | rfl | cases hanswered

lemma Counting.granted (h : sys.Counting ms var b) (hdone : (sys.moves ms).Done) :
    (grants (sys.history ms) var).Perm (sys.callers var) := by
  refine (List.perm_ext_iff_of_nodup (h.calm.ledger h.fresh).nodup
    (List.nodup_range.filter _)).2 ?_
  intro t
  rw [h.grants_eq hdone]
  constructor
  · intro ht
    obtain ⟨x, hx, rfl⟩ := List.mem_map.1 ht
    obtain ⟨-, d, -, hd⟩ := h.of_mem_services hx
    exact mem_callers hd
  · intro ht
    obtain ⟨x, hx, rfl, -⟩ := h.served hdone ht
    exact List.mem_map.2 ⟨x, hx, rfl⟩

/-- The amounts in the order of the grants are those of the services. -/
lemma Counting.amounts_eq (h : sys.Counting ms var b) (hdone : (sys.moves ms).Done) :
    (grants (sys.history ms) var).filterMap (sys.amount? var) =
      (services (sys.history ms) var).filterMap (·.job.delta?) := by
  rw [h.grants_eq hdone, List.filterMap_map]
  apply List.filterMap_congr
  intro x hx
  obtain ⟨-, d, hjob, hd⟩ := h.of_mem_services hx
  rw [Function.comp_apply, hd, hjob]
  rfl

lemma Counting.amounts_perm (h : sys.Counting ms var b) (hdone : (sys.moves ms).Done) :
    ((services (sys.history ms) var).filterMap (·.job.delta?)).Perm (sys.amounts var) := by
  rw [← h.amounts_eq hdone, ← filterMap_callers]
  exact (h.granted hdone).filterMap _

lemma Counting.counted (h : sys.Counting ms var b) (hdone : (sys.moves ms).Done) :
    sys.Counted ms var b := by
  have hl := h.calm.ledger h.fresh
  have hperm := h.amounts_perm hdone
  have hroom := h.room
  rw [← (hperm.map Int.natAbs).sum_eq] at hroom
  have ht := hl.replay.increments h.key_ne h.base hroom fun x hx => by
    obtain ⟨hfault, d, hjob, -⟩ := h.of_mem_services hx
    exact ⟨hfault, d, hjob⟩
  have hreplies : (grants (sys.history ms) var).map (sys.moves ms).reply? =
      (runningTotals b ((grants (sys.history ms) var).filterMap (sys.amount? var))).map
        fun n => some (.ok (.total n)) := by
    -- a ticket has one service only, so the answer of its task is the reply of that service
    have hnodup := hl.nodup
    rw [h.grants_eq hdone] at hnodup
    have hreply : ∀ x ∈ services (sys.history ms) var,
        (sys.moves ms).reply? x.ticket = some x.reply := by
      intro x hx
      obtain ⟨-, d, -, hd⟩ := h.of_mem_services hx
      obtain ⟨y, hy, hticket, hreply⟩ := h.served hdone (mem_callers hd)
      rw [hreply, List.inj_on_of_nodup_map hnodup hy hx hticket]
    calc (grants (sys.history ms) var).map (sys.moves ms).reply?
        = (services (sys.history ms) var).map fun x => some x.reply := by
          rw [h.grants_eq hdone, List.map_map]
          exact List.map_congr_left hreply
      _ = ((services (sys.history ms) var).map (·.reply)).map some := by rw [List.map_map]; rfl
      _ = _ := by
          rw [ht.replies, List.map_map, h.amounts_eq hdone]
          rfl
  refine ⟨h.granted hdone, ?_, hreplies, ?_⟩
  · intro t ht
    have hmem := List.mem_map_of_mem (f := (sys.moves ms).reply?) ((h.granted hdone).mem_iff.2 ht)
    rw [hreplies] at hmem
    obtain ⟨n, -, hn⟩ := List.mem_map.1 hmem
    exact ⟨n, hn.symm⟩
  · have hne : services (sys.history ms) var ≠ [] := by
      intro hnil
      rw [hnil] at hperm
      exact h.nonempty hperm.nil_eq.symm
    rw [← hl.text, ht.text hne, hperm.sum_eq]

/-- Whatever the order of their turns, increments of a variable at the same time add up: the run can
be completed, and when it is complete, every increment has answered its running total, and the text
that is left goes by the amounts alone. -/
theorem moves_counted (h : sys.Counting ms var b) :
    (∃ rest : List (Move β), (∀ change, .outside change ∉ rest) ∧
      (sys.moves (ms ++ rest)).Done) ∧
    ((sys.moves ms).Done → sys.Counted ms var b ∧
      ∀ (sys' : System β) (ms' : List (Move β)), sys'.Counting ms' var b →
        (sys'.moves ms').Done → (sys'.amounts var).Perm (sys.amounts var) →
        Backend.stored (sys'.moves ms').store.backend var =
          Backend.stored (sys.moves ms).store.backend var) := by
  refine ⟨?_, fun hdone => ⟨h.counted hdone, fun sys' ms' h' hdone' hperm => ?_⟩⟩
  · obtain ⟨rest, hcalm, hdone⟩ :=
      exists_done (h.calm.ledger h.fresh).lined (h.fresh.staged_moves ms)
    exact ⟨rest, hcalm, by rw [moves_append]; exact hdone⟩
  · rw [(h'.counted hdone').text, (h.counted hdone).text, hperm.sum_eq]

/-! ## Runs without refusals -/

omit [AtomicBackend β] in
/-- A call that met no failure answers no failure. -/
lemma Ledger.reply_of_no_fault {raw : Option String} {h : List Deed} (hl : Ledger var raw h sys)
    {x : Service} (hx : x ∈ services h var) (hfault : x.fault = none) :
    ∃ a, x.reply = .ok a := by
  obtain ⟨pre, post, heq⟩ := List.append_of_mem hx
  have hreplay := hl.replay pre x post heq
  have hkey := key_ne_of_mem_services hx
  obtain ⟨hserve, -⟩ := Store.serve_found hkey (Store.unused_serial hkey raw pre) x.job none
  rw [hfault] at hreplay
  exact ⟨_, (congrArg Prod.snd hreplay).symm.trans (congrArg Prod.snd hserve)⟩

/-- Where nobody has a time limit, nobody is refused. -/
lemma Calm.punctual (hcalm : sys.Calm ms var) (hfresh : sys.Fresh)
    (hreliable : ∀ d ∈ sys.history ms, ∀ job, d.call.job? = some (var, job) → d.fault = none)
    (hlimit : ∀ task ∈ sys.tasks, ∀ job, task.call.job? = some (var, job) →
      sys.limitOf task = none) :
    ∀ task ∈ (sys.moves ms).tasks, ∀ job, task.call.job? = some (var, job) →
      ∀ time limit, task.stage ≠ .answered time (.error (.lockTimeout var limit)) := by
  intro task hmem job hjob time limit hstage
  obtain ⟨t, ht⟩ := List.mem_iff_getElem?.1 hmem
  have hl := hcalm.ledger hfresh
  have hstands := hl.stands t task job ht hjob
  rw [hstage] at hstands
  rcases hstands with ⟨x, hx, -, -, hreply⟩ | ⟨-, ms', hsome, -⟩
  · obtain ⟨-, d, hd, hjob', hfault⟩ := exists_of_mem_services hx
    obtain ⟨a, ha⟩ := hl.reply_of_no_fault hx (hfault ▸ hreliable d hd x.job hjob')
    rw [ha] at hreply
    cases hreply
  · obtain ⟨task', ht', hcall, hsame⟩ := exists_limitOf_of_moves ms ht
    rw [hsame, hlimit task' (List.mem_of_getElem? ht') job (hcall ▸ hjob)] at hsome
    cases hsome

/-- A backend in memory fails no call. -/
lemma fault?_memory (sys : System Memory) (task : Task) : sys.fault? task = none := by
  unfold fault?
  split
  · cases task.call.var? <;> rfl
  · cases task.call.job? with
    | none => rfl
    | some p =>
      simp only [Option.bind_some, Store.writeFailure?_memory]
      rfl
  · rfl

lemma fault_eq_none_of_memory {sys : System Memory} {ms : List (Move Memory)} {d : Deed}
    (hd : d ∈ sys.history ms) : d.fault = none := by
  obtain ⟨ms₁, t, ms₂, task, -, -, rfl⟩ := exists_of_mem_history hd
  exact fault?_memory _ task

/-- Three increments of a variable that is stored as a number. -/
def tally : System Memory where
  store := { backend := { map := RawMap.empty.set counter "n: 4e1" }, limit := none }
  tasks := [{ call := .increment counter (.int64 2) },
    { call := .increment counter (.int32 (-50)) },
    { call := .increment counter (.text "7 apples") }]

/-- The second increment comes first, and the others ask for the lock while it is served. -/
def tallyMoves : List (Move Memory) :=
  [.turn 1, .turn 1, .turn 0, .turn 1, .turn 2, .turn 0, .turn 1, .turn 2, .turn 1, .turn 2,
    .turn 0, .turn 0, .turn 0, .turn 0, .turn 2, .turn 2, .turn 2, .turn 2]

theorem tally_counted : tally.Counting tallyMoves counter 40 ∧ (tally.moves tallyMoves).Done ∧
    grants (tally.history tallyMoves) counter = [1, 0, 2] ∧
    tally.Counted tallyMoves counter 40 := by
  have hfresh : tally.Fresh := ⟨⟨rfl, rfl⟩, by simp [tally]⟩
  have hcalm : tally.Calm tallyMoves counter :=
    ⟨by simp [tally, Call.Writes], by simp [tallyMoves]⟩
  have hreliable : ∀ d ∈ tally.history tallyMoves, ∀ job,
      d.call.job? = some (counter, job) → d.fault = none :=
    fun d hd _ _ => fault_eq_none_of_memory hd
  have hjobs : ∀ task ∈ tally.tasks, ∀ job, task.call.job? = some (counter, job) →
      tally.limitOf task = none ∧ ∃ d, job = .increment d := by
    intro task hmem job hjob
    simp only [tally, List.mem_cons, List.not_mem_nil, or_false] at hmem
    rcases hmem with rfl | rfl | rfl <;> cases hjob <;> exact ⟨rfl, _, rfl⟩
  have hbase : CountsAs (Backend.stored tally.store.backend counter) 40 := by
    refine .number (x := .ofInt 40) ?_ (Double.isInteger_ofInt (by decide))
    decide +kernel
  have h : tally.Counting tallyMoves counter 40 :=
    { fresh := hfresh
      calm := hcalm
      increments := fun task hmem job hjob => (hjobs task hmem job hjob).2
      nonempty := by decide +kernel
      base := hbase
      room := by decide +kernel
      reliable := hreliable
      punctual := hcalm.punctual hfresh hreliable fun task hmem job hjob =>
        (hjobs task hmem job hjob).1 }
  have hdone : (tally.moves tallyMoves).Done := by
    unfold Done
    decide +kernel
  exact ⟨h, hdone, by decide +kernel, ((moves_counted h).2 hdone).1⟩

end System

end TypedVars
