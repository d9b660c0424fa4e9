import Mathlib.Tactic.Common
import TypedVars.Backend.Document
import TypedVars.Backend.Memory
import TypedVars.Proofs.Backend.RawMap

/-!
# Calls on a backend

The calls on a backend as values, and what they answer one after another (`Backend.calls`).

A call has at most one effect, and that is on the map of the texts: `BackendCall.change?` is the map
that it makes of one, if it makes any.  The backend in memory changes its map accordingly and never
fails.  The backend of a document does one of three things (`Document.call_cases`): without a change
it answers as memory does and leaves the document alone; a change goes to the document and then to
the map; and where the document cannot be written the call fails and nothing is different.
-/

namespace TypedVars

/-- A call on a backend. -/
inductive BackendCall where
  | get (var : VarId)
  | set (var : VarId) (raw : String)
  | unset (var : VarId)
  | entries (scope : Scope)
  deriving DecidableEq

/-- What a call on a backend answers when it succeeds. -/
inductive BackendAnswer where
  | done
  | text (raw : Option String)
  | listing (entries : List (String × String))
  deriving DecidableEq

namespace Backend

variable {β : Type} [Backend β]

/-- Makes a call. -/
def call (b : β) : BackendCall → Except StoreError BackendAnswer × β
  | .get var => (Backend.get var b).map (·.map .text) id
  | .set var raw => (Backend.set var raw b).map (·.map fun _ => .done) id
  | .unset var => (Backend.unset var b).map (·.map fun _ => .done) id
  | .entries scope => (Backend.entries scope b).map (·.map .listing) id

/-- Makes some calls, one after another. -/
def calls (b : β) : List BackendCall → List (Except StoreError BackendAnswer) × β
  | [] => ([], b)
  | c :: rest =>
    let (answer, b) := call b c
    let (answers, b) := calls b rest
    (answer :: answers, b)

lemma calls_cons (b : β) (c : BackendCall) (rest : List BackendCall) :
    calls b (c :: rest) =
      ((call b c).1 :: (calls (call b c).2 rest).1, (calls (call b c).2 rest).2) := rfl

end Backend

namespace BackendCall

/-- The map that a call makes of a map of texts, if it changes any. -/
def change? (m : RawMap) : BackendCall → Option RawMap
  | set var raw => some (m.set var raw)
  | unset var => if (m.get? var).isSome then some (m.unset var) else none
  | get _ | entries _ => none

end BackendCall

/-! ## In memory -/

namespace Memory

variable {m m' : RawMap}

/-- On maps with the same texts every call answers the same and leaves the same texts. -/
lemma call_of_sameTexts (h : m.SameTexts m') (c : BackendCall) :
    (Backend.call (⟨m⟩ : Memory) c).1 = (Backend.call (⟨m'⟩ : Memory) c).1 ∧
      (Backend.call (⟨m⟩ : Memory) c).2.map.SameTexts (Backend.call (⟨m'⟩ : Memory) c).2.map := by
  cases c with
  | get var => exact ⟨congrArg (Except.ok ∘ BackendAnswer.text) (h var), h⟩
  | set var raw => exact ⟨rfl, h.set var raw⟩
  | unset var => exact ⟨rfl, h.unset var⟩
  | entries scope =>
    exact ⟨congrArg (Except.ok ∘ BackendAnswer.listing ∘ Dict.entries) (h.inScope scope), h⟩

/-- A change happens in memory as well. -/
lemma call_of_change {c : BackendCall} {next : RawMap} (h : c.change? m = some next) :
    Backend.call (⟨m⟩ : Memory) c = (.ok .done, ⟨next⟩) := by
  cases c with
  | set var raw =>
    cases h
    rfl
  | unset var =>
    simp only [BackendCall.change?, Option.ite_none_right_eq_some] at h
    obtain ⟨-, heq⟩ := h
    cases heq
    rfl
  | get var | entries scope => cases h

/-- Without a change the texts stay. -/
lemma sameTexts_call_of_no_change {c : BackendCall} (h : c.change? m = none) :
    m.SameTexts (Backend.call (⟨m⟩ : Memory) c).2.map := by
  cases c with
  | set var raw => cases h
  | unset var =>
    apply RawMap.sameTexts_unset_of_get?_eq_none
    simpa [BackendCall.change?] using h
  | get var | entries scope => exact fun _ => rfl

end Memory

/-! ## In a document -/

namespace Document

variable {b : Document} {c : BackendCall} {next : RawMap}

lemma call_of_no_change (h : c.change? b.map = none) :
    Backend.call b c = ((Backend.call (⟨b.map⟩ : Memory) c).1, b) := by
  cases c with
  | set var raw => cases h
  | unset var =>
    have habsent : ¬(b.map.get? var).isSome = true := by
      simpa [BackendCall.change?] using h
    simp only [Backend.call, Backend.unset, if_neg habsent]
    rfl
  | get var | entries scope => rfl

lemma call_of_change (h : c.change? b.map = some next) :
    Backend.call b c = ((b.save next).1.map fun _ => .done, (b.save next).2) := by
  cases c with
  | set var raw =>
    cases h
    rfl
  | unset var =>
    simp only [BackendCall.change?, Option.ite_none_right_eq_some] at h
    obtain ⟨hpresent, heq⟩ := h
    cases heq
    simp only [Backend.call, Backend.unset, if_pos hpresent]
    rfl
  | get var | entries scope => cases h

/-- What a call on a document does: nothing but to answer, or it writes the document, or it
fails because the document cannot be written. -/
lemma call_cases (b : Document) (c : BackendCall) :
    (c.change? b.map = none ∧
      Backend.call b c = ((Backend.call (⟨b.map⟩ : Memory) c).1, b)) ∨
    (∃ next disk, c.change? b.map = some next ∧ b.disk.write? (bytesOf next) = some disk ∧
      Backend.call b c = (.ok .done, ⟨next, disk⟩)) ∨
    (∃ next, c.change? b.map = some next ∧ b.disk.write? (bytesOf next) = none ∧
      Backend.call b c = (.error (.backend none), b)) := by
  cases hchange : c.change? b.map with
  | none => exact .inl ⟨rfl, call_of_no_change hchange⟩
  | some next =>
    refine .inr ?_
    rw [call_of_change hchange, save]
    cases hwrite : b.disk.write? (bytesOf next) with
    | none => exact .inr ⟨next, rfl, hwrite, rfl⟩
    | some disk => exact .inl ⟨next, disk, rfl, hwrite, rfl⟩

end Document

end TypedVars
