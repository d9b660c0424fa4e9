import TypedVars.Proofs.Journal
import TypedVars.Proofs.Store.Demand

/-!
# What the parts of a call report

Whatever part of a call adds to the journal, it adds a report of some events.  This module says for
each part which events these are (`Store.journal_fetch_cases`, `Store.journal_commit`,
`Store.journal_conclude`, `Call.remark_eq`), and for each kind of report what it adds to the
counters.
-/

namespace TypedVars

/-! ## The events -/

/-- What a locked call tells of the text that it finds. -/
def discards (var : VarId) : Option String → List Event
  | some raw =>
    match Value.decode raw with
    | .undecodable => [.discarded var raw]
    | _ => []
  | none => []

/-- What an increment tells when an amount replaces a value without an integer. -/
def resets (var : VarId) : Option Int → List Event
  | some delta => [.reset var delta]
  | none => []

/-- What a locked call tells of its answer. -/
def conclusions (var : VarId) : Job → Reply → List Event
  | .increment delta, .ok (.total n) => [.incremented var delta n]
  | _, _ => []

/-- What a call without a lock tells of an answer of the backend. -/
def Call.remarks : Call → BackendAnswer → List Event
  | get var, .text (some raw) =>
    match Value.decode raw with
    | .undecodable => [.undecodable var raw]
    | _ => []
  | dump scope lead, .listing entries | dumpJson scope lead, .listing entries =>
    Journal.skips scope (chosen lead entries)
  | _, _ => []

/-- Nothing is told of a call that fails. -/
lemma conclusions_error (var : VarId) (job : Job) (e : StoreError) :
    conclusions var job (.error e) = [] := by
  cases job <;> rfl

/-- Nothing is told of a text that can be decoded. -/
lemma discards_of_decodable {var : VarId} {raw : Option String}
    (h : ∀ r, raw = some r → Value.decode r ≠ .undecodable) : discards var raw = [] := by
  unfold discards
  split
  · next r =>
    cases hdecode : Value.decode r with
    | undecodable => exact absurd hdecode (h r rfl)
    | absent | value v => rfl
  · rfl

/-! ## What is reported -/

lemma Call.remark_eq (j : Journal) (c : Call) (answer : BackendAnswer) :
    c.remark j answer = j.report (c.remarks answer) := by
  cases c with
  | get var =>
    cases answer with
    | text raw =>
      cases raw with
      | none => exact (j.report_nil).symm
      | some raw =>
        simp only [remark, remarks]
        cases Value.decode raw with
        | undecodable => rfl
        | absent | value v => exact (j.report_nil).symm
    | done | listing entries => exact (j.report_nil).symm
  | dump scope lead | dumpJson scope lead =>
    cases answer with
    | listing entries => exact Journal.noteSkipped_eq _ _ _
    | done | text raw => exact (j.report_nil).symm
  | set | setJson | unset | isSet | increment | update => exact (j.report_nil).symm

namespace Store

variable {β : Type} [Backend β]

/-- A read under the lock fails with the backend and reports nothing, or it finds a text and reports
one that it takes for nothing. -/
lemma journal_fetch_cases (s : Store β) (var : VarId) :
    (∃ e, (Backend.get var s.backend).1 = .error e ∧ (s.fetch var).1 = .error e ∧
      (s.fetch var).2.journal = s.journal) ∨
    ∃ raw, (Backend.get var s.backend).1 = .ok raw ∧ (s.fetch var).1 = .ok (valueOf raw) ∧
      (s.fetch var).2.journal = s.journal.report (discards var raw) := by
  simp only [fetch, ask_eq]
  rcases (Backend.get var s.backend).1 with e | _ | raw
  · exact .inl ⟨e, rfl, rfl, rfl⟩
  · exact .inr ⟨none, rfl, rfl, (s.journal.report_nil).symm⟩
  · refine .inr ⟨some raw, rfl, ?_⟩
    simp only [discards, valueOf, Option.bind_some]
    cases Value.decode raw with
    | undecodable => exact ⟨rfl, rfl⟩
    | absent | value v => exact ⟨rfl, (s.journal.report_nil).symm⟩

lemma journal_write (s : Store β) (var : VarId) (value : Option Value) :
    (s.write var value).2.journal = s.journal := by
  cases value <;> rfl

lemma journal_commit (s : Store β) (var : VarId) (job : Job) (current : Option Value) :
    (s.commit var job current).2.journal =
      s.journal.report (resets var (job.decide current).reset) := by
  have hcommit : (s.commit var job current).2.journal =
      (s.noteReset var (job.decide current).reset).journal := by
    rw [← journal_write (s.noteReset var (job.decide current).reset) var
      (job.decide current).written]
    unfold commit
    dsimp only
    split <;> next hw => rw [hw]
  rw [hcommit]
  cases (job.decide current).reset with
  | none => exact (s.journal.report_nil).symm
  | some delta => rfl

omit [Backend β] in
lemma journal_conclude (s : Store β) (var : VarId) (job : Job) (reply : Reply) :
    (s.conclude var job reply).journal = s.journal.report (conclusions var job reply) := by
  cases job with
  | increment delta =>
    cases reply with
    | error e => exact (s.journal.report_nil).symm
    | ok a =>
      cases a with
      | total n => rfl
      | done | value | flag | replaced | listing | text => exact (s.journal.report_nil).symm
  | update f => exact (s.journal.report_nil).symm

end Store

/-! ## What is counted -/

lemma foldl_count_discards (var : VarId) (raw : Option String) (k : Counters) :
    (discards var raw).foldl Counters.count k = k := by
  unfold discards
  split
  · split <;> rfl
  · rfl

lemma foldl_count_resets (var : VarId) (delta : Option Int) (k : Counters) :
    (resets var delta).foldl Counters.count k =
      { k with resets := k.resets + (resets var delta).length } := by
  cases delta <;> rfl

lemma foldl_count_conclusions (var : VarId) (job : Job) (reply : Reply) (k : Counters) :
    (conclusions var job reply).foldl Counters.count k =
      { k with increments := k.increments + (conclusions var job reply).length } := by
  unfold conclusions
  split <;> rfl

lemma foldl_count_skips (scope : Scope) (entries : List (String × String)) (k : Counters) :
    (Journal.skips scope entries).foldl Counters.count k =
      { k with decodeErrors := k.decodeErrors + (Journal.skips scope entries).length } := by
  unfold Journal.skips
  induction entries.filter fun e => Value.decode e.2 = .undecodable generalizing k with
  | nil => rfl
  | cons e rest ih =>
    rw [List.map_cons, List.foldl_cons, ih, List.length_cons]
    simp only [Counters.count, Nat.add_assoc, Nat.add_comm 1]

lemma foldl_count_remarks (c : Call) (answer : BackendAnswer) (k : Counters) :
    (c.remarks answer).foldl Counters.count k =
      { k with decodeErrors := k.decodeErrors + (c.remarks answer).length } := by
  unfold Call.remarks
  split
  · split <;> rfl
  · exact foldl_count_skips _ _ _
  · exact foldl_count_skips _ _ _
  · rfl

lemma length_skips (scope : Scope) (entries : List (String × String)) :
    (Journal.skips scope entries).length =
      entries.countP fun e => Value.decode e.2 = .undecodable := by
  rw [Journal.skips, List.length_map, ← List.countP_eq_length_filter]

end TypedVars
