import TypedVars.Proofs.Backend.Document
import TypedVars.Proofs.Store.Atomic

/-!
# Backends that keep variables apart

Two states of a backend are *alike* for a variable (`Backend.Alike`) when no calls on it can tell
them apart, neither by their answers nor by the text that they leave.  A backend keeps variables
apart (`SeparateBackend`) when any other call leaves a state alike to the one before: a call on
another variable, even if only its scope or its key is another one, or a listing.  All backends of
the library do so.
-/

namespace TypedVars

/-- The variable that a call on a backend addresses, unless it lists a scope. -/
def BackendCall.var? : BackendCall → Option VarId
  | get var | set var _ | unset var => some var
  | entries _ => none

namespace Backend

variable {β : Type} [Backend β] {var : VarId} {b b' b'' : β} {c : BackendCall}

/-- No calls on a variable tell two states of a backend apart. -/
def Alike (var : VarId) (b b' : β) : Prop :=
  ∀ cs : List BackendCall, (∀ c ∈ cs, c.var? = some var) →
    (calls b cs).1 = (calls b' cs).1 ∧ stored (calls b cs).2 var = stored (calls b' cs).2 var

lemma alike_refl (var : VarId) (b : β) : Alike var b b := fun _ _ => ⟨rfl, rfl⟩

lemma Alike.symm (h : Alike var b b') : Alike var b' b :=
  fun cs hcs => ⟨(h cs hcs).1.symm, (h cs hcs).2.symm⟩

lemma Alike.trans (h : Alike var b b') (h' : Alike var b' b'') : Alike var b b'' :=
  fun cs hcs => ⟨(h cs hcs).1.trans (h' cs hcs).1, (h cs hcs).2.trans (h' cs hcs).2⟩

lemma Alike.stored (h : Alike var b b') : Backend.stored b var = Backend.stored b' var :=
  (h [] fun _ hmem => nomatch hmem).2

/-- A call on the variable has the same answer. -/
lemma Alike.answer (h : Alike var b b') (hc : c.var? = some var) :
    (call b c).1 = (call b' c).1 := by
  have hcs := (h [c] fun d hd => by rwa [List.mem_singleton.1 hd]).1
  rw [calls_cons, calls_cons] at hcs
  exact (List.cons.inj hcs).1

/-- It leaves two states that are alike again. -/
lemma Alike.call (h : Alike var b b') (hc : c.var? = some var) :
    Alike var (Backend.call b c).2 (Backend.call b' c).2 := by
  intro cs hcs
  have hall := h (c :: cs) (List.forall_mem_cons.2 ⟨hc, hcs⟩)
  rw [calls_cons, calls_cons] at hall
  exact ⟨(List.cons.inj hall.1).2, hall.2⟩

/-- States are alike that have something in common which decides what a call on the variable
answers, and which such a call keeps. -/
lemma alike_of_common {R : β → β → Prop}
    (hcall : ∀ b b' c, R b b' → c.var? = some var →
      (call b c).1 = (call b' c).1 ∧ R (call b c).2 (call b' c).2)
    (hstored : ∀ b b', R b b' → stored b var = stored b' var) (h : R b b') : Alike var b b' := by
  intro cs hcs
  induction cs generalizing b b' with
  | nil => exact ⟨rfl, hstored b b' h⟩
  | cons c cs ih =>
    obtain ⟨hc, hcs⟩ := List.forall_mem_cons.1 hcs
    obtain ⟨hanswer, hnext⟩ := hcall b b' c h hc
    obtain ⟨hanswers, htext⟩ := ih hnext hcs
    rw [calls_cons, calls_cons, hanswer, hanswers]
    exact ⟨rfl, htext⟩

end Backend

/-- A backend in which a call on a variable does not see the other calls. -/
class SeparateBackend (β : Type) [Backend β] : Prop where
  alike_call {var : VarId} {c : BackendCall} (h : c.var? ≠ some var) (b : β) :
    Backend.Alike var b (Backend.call b c).2

/-! ## The backends of the library -/

/-- A change of another variable is none of this one. -/
lemma BackendCall.get?_of_change {c : BackendCall} {m next : RawMap} {var : VarId}
    (h : c.change? m = some next) (hc : c.var? ≠ some var) : next.get? var = m.get? var := by
  cases c with
  | set v raw =>
    cases h
    rw [RawMap.get?_set, if_neg fun e => hc (congrArg some e.symm)]
  | unset v =>
    simp only [change?, Option.ite_none_right_eq_some] at h
    rw [← Option.some.inj h.2, RawMap.get?_unset, if_neg fun e => hc (congrArg some e.symm)]
  | get v | entries scope => cases h

namespace Memory

lemma alike_of_get? {var : VarId} {b b' : Memory} (h : b.map.get? var = b'.map.get? var) :
    Backend.Alike var b b' := by
  refine Backend.alike_of_common (R := fun b b' => b.map.get? var = b'.map.get? var) ?_
    (fun _ _ h => h) h
  intro b b' c h hc
  cases c with
  | get v =>
    cases hc
    exact ⟨congrArg (Except.ok ∘ BackendAnswer.text) h, h⟩
  | set v raw =>
    cases hc
    exact ⟨rfl, (RawMap.get?_set_self ..).trans (RawMap.get?_set_self ..).symm⟩
  | unset v =>
    cases hc
    exact ⟨rfl, (RawMap.get?_unset_self ..).trans (RawMap.get?_unset_self ..).symm⟩
  | entries scope => cases hc

end Memory

instance : SeparateBackend Memory where
  alike_call {var c} hc b := by
    apply Memory.alike_of_get?
    cases hchange : c.change? b.map with
    | none => exact Memory.sameTexts_call_of_no_change hchange var
    | some next =>
      rw [Memory.call_of_change hchange]
      exact (c.get?_of_change hchange hc).symm

namespace Host

lemma alike_of_get? {var : VarId} {b b' : Host} (h : b.map.get? var = b'.map.get? var)
    (hfault : b.fault = b'.fault) : Backend.Alike var b b' := by
  refine Backend.alike_of_common
    (R := fun b b' => b.map.get? var = b'.map.get? var ∧ b.fault = b'.fault) ?_
    (fun _ _ h => h.1) ⟨h, hfault⟩
  rintro b b' c ⟨h, hfault⟩ hc
  have hrefuse : ∀ call, b'.refusal? call = b.refusal? call := fun call => by
    rw [refusal?, refusal?, hfault]
  cases c with
  | get v =>
    cases hc
    simp only [Backend.call, get_eq, hrefuse]
    cases b.refusal? .get with
    | some cause => exact ⟨rfl, h, hfault⟩
    | none => exact ⟨congrArg (Except.ok ∘ BackendAnswer.text) h, h, hfault⟩
  | set v raw =>
    cases hc
    simp only [Backend.call, set_eq, hrefuse]
    cases b.refusal? .set with
    | some cause => exact ⟨rfl, h, hfault⟩
    | none =>
      exact ⟨rfl, (RawMap.get?_set_self ..).trans (RawMap.get?_set_self ..).symm, hfault⟩
  | unset v =>
    cases hc
    simp only [Backend.call, unset_eq, hrefuse]
    cases b.refusal? .unset with
    | some cause => exact ⟨rfl, h, hfault⟩
    | none =>
      exact ⟨rfl, (RawMap.get?_unset_self ..).trans (RawMap.get?_unset_self ..).symm, hfault⟩
  | entries scope => cases hc

end Host

instance : SeparateBackend Host where
  alike_call {var c} hc b := by
    have hne : ∀ v, c.var? = some v → var ≠ v := by
      rintro v hv rfl
      exact hc hv
    cases c with
    | get v =>
      simp only [Backend.call, Host.get_eq]
      cases b.refusal? .get <;> exact Backend.alike_refl var b
    | set v raw =>
      simp only [Backend.call, Host.set_eq]
      cases b.refusal? .set with
      | some cause => exact Backend.alike_refl var b
      | none => exact Host.alike_of_get? (RawMap.get?_set_of_ne _ (hne v rfl) _).symm rfl
    | unset v =>
      simp only [Backend.call, Host.unset_eq]
      cases b.refusal? .unset with
      | some cause => exact Backend.alike_refl var b
      | none => exact Host.alike_of_get? (RawMap.get?_unset_of_ne _ (hne v rfl)).symm rfl
    | entries scope => exact Backend.alike_refl var b

/-- Whether a file can be written. -/
def Disk.isWritable : Disk → Bool
  | vacant | file _ => true
  | noParent | blockedParent | directory => false

namespace Document

/-- Whether a write succeeds does not depend on what is written. -/
lemma save_eq (b : Document) (next : RawMap) : b.save next =
    if b.disk.isWritable then (.ok (), ⟨next, .file (bytesOf next)⟩)
    else (.error (.backend none), b) := by
  unfold save
  cases b.disk <;> rfl

lemma alike_of_get? {var : VarId} {b b' : Document} (h : b.map.get? var = b'.map.get? var)
    (hdisk : b.disk.isWritable = b'.disk.isWritable) : Backend.Alike var b b' := by
  refine Backend.alike_of_common (R := fun b b' => b.map.get? var = b'.map.get? var ∧
    b.disk.isWritable = b'.disk.isWritable) ?_ (fun _ _ h => h.1) ⟨h, hdisk⟩
  rintro b b' c ⟨h, hdisk⟩ hc
  cases c with
  | get v =>
    cases hc
    exact ⟨congrArg (Except.ok ∘ BackendAnswer.text) h, h, hdisk⟩
  | set v raw =>
    cases hc
    simp only [Backend.call, Backend.set, save_eq, hdisk]
    cases hwrite : b'.disk.isWritable with
    | true => exact ⟨rfl, (RawMap.get?_set_self ..).trans (RawMap.get?_set_self ..).symm, rfl⟩
    | false => exact ⟨rfl, h, hdisk⟩
  | unset v =>
    cases hc
    simp only [Backend.call, unset_eq, save_eq, h, hdisk]
    split
    · cases hwrite : b'.disk.isWritable with
      | true =>
        exact ⟨rfl, (RawMap.get?_unset_self ..).trans (RawMap.get?_unset_self ..).symm, rfl⟩
      | false => exact ⟨rfl, h, hdisk⟩
    · exact ⟨rfl, h, hdisk⟩
  | entries scope => cases hc

end Document

instance : SeparateBackend Document where
  alike_call {var c} hc b := by
    rcases b.call_cases c with ⟨-, hcall⟩ | ⟨next, disk, hchange, hwrite, hcall⟩ | ⟨-, -, -, hcall⟩
    · rw [hcall]
      exact Backend.alike_refl var b
    · rw [hcall]
      refine Document.alike_of_get? (c.get?_of_change hchange hc).symm ?_
      rw [Document.eq_of_write? hwrite]
      cases hdisk : b.disk <;> simp [hdisk, Disk.write?] at hwrite <;> rfl
    · rw [hcall]
      exact Backend.alike_refl var b

namespace Storage

variable {var : VarId}

lemma call_memory (b : Memory) (disk : Disk) (c : BackendCall) :
    Backend.call (memory b disk) c = (Backend.call b c).map id (memory · disk) := by
  cases c <;> rfl

lemma call_host (b : Host) (disk : Disk) (c : BackendCall) :
    Backend.call (host b disk) c = (Backend.call b c).map id (host · disk) := by
  cases c <;> rfl

lemma call_document (b : Document) (c : BackendCall) :
    Backend.call (document b) c = (Backend.call b c).map id document := by
  cases c <;> rfl

/-- The same kind of backend, in states that are alike. -/
inductive SameKind (var : VarId) : Storage → Storage → Prop where
  | memory {b b' : Memory} {disk disk' : Disk} (h : Backend.Alike var b b') :
    SameKind var (.memory b disk) (.memory b' disk')
  | host {b b' : Host} {disk disk' : Disk} (h : Backend.Alike var b b') :
    SameKind var (.host b disk) (.host b' disk')
  | document {b b' : Document} (h : Backend.Alike var b b') :
    SameKind var (.document b) (.document b')

lemma SameKind.alike {b b' : Storage} (h : SameKind var b b') : Backend.Alike var b b' := by
  refine Backend.alike_of_common (R := SameKind var) ?_ ?_ h
  · intro b b' c h hc
    cases h with
    | memory h =>
      rw [call_memory, call_memory]
      exact ⟨h.answer hc, .memory (h.call hc)⟩
    | host h =>
      rw [call_host, call_host]
      exact ⟨h.answer hc, .host (h.call hc)⟩
    | document h =>
      rw [call_document, call_document]
      exact ⟨h.answer hc, .document (h.call hc)⟩
  · intro b b' h
    cases h with
    | memory h | host h | document h => exact h.stored

end Storage

instance : SeparateBackend Storage where
  alike_call {var c} hc b := by
    apply Storage.SameKind.alike
    cases b with
    | memory b disk =>
      rw [Storage.call_memory]
      exact .memory (SeparateBackend.alike_call hc b)
    | host b disk =>
      rw [Storage.call_host]
      exact .host (SeparateBackend.alike_call hc b)
    | document b =>
      rw [Storage.call_document]
      exact .document (SeparateBackend.alike_call hc b)

end TypedVars
