import Mathlib.Tactic.Common
import TypedVars.Proofs.Backend.Calls

/-!
# What a document holds

The bytes of a map are read as that map (`Document.mapOf?_bytesOf`).  A document is *synced*
(`Document.Synced`) when its bytes are those of the map in memory; then opening it again makes no
difference (`Synced.openOn`).  Opening a missing document and every change that is written make a
document synced, and calls keep it so, because no call fails on a synced document
(`Synced.call`).

So a session in which the document is opened again and again answers as one backend in memory
(`session_eq_calls`).
-/

namespace TypedVars

namespace Document

variable {b : Document} {c : BackendCall}

/-! ## Bytes -/

lemma fromUTF8?_toUTF8 (s : String) : String.fromUTF8? s.toUTF8 = some s :=
  dif_pos s.isValidUTF8

lemma isEmpty_toUTF8 {s : String} (h : s ≠ "") : s.toUTF8.isEmpty = false := by
  simpa [ByteArray.isEmpty] using h

lemma mapOf?_toUTF8 {text : String} (h : text ≠ "") :
    mapOf? text.toUTF8 = (Json.parse? text.toList).bind RawMap.ofJson? := by
  rw [mapOf?, isEmpty_toUTF8 h, if_neg Bool.false_ne_true, fromUTF8?_toUTF8]
  rfl

/-- The bytes of a map are read as that map. -/
theorem mapOf?_bytesOf (m : RawMap) : mapOf? (bytesOf m) = some m := by
  have hread := Json.parse?_text m.exact_toJson
  have hne : m.toJson.text ≠ "" := by
    intro hempty
    rw [hempty] at hread
    cases hread
  rw [bytesOf, mapOf?_toUTF8 hne, hread, Option.bind_some, RawMap.ofJson?_toJson]

lemma eq_of_write? {disk disk' : Disk} {bytes : ByteArray} (h : disk.write? bytes = some disk') :
    disk' = .file bytes := by
  cases disk <;> simp_all [Disk.write?]

/-! ## Synced documents -/

/-- The bytes of the document are those of the map in memory. -/
def Synced (b : Document) : Prop := b.disk = .file (bytesOf b.map)

/-- To open a synced document again makes no difference. -/
lemma Synced.openOn (h : b.Synced) : openOn b.disk = .ok b := by
  obtain ⟨m, disk⟩ := b
  have hdisk : disk = .file (bytesOf m) := h
  subst hdisk
  simp [Document.openOn, readOrCreate, Disk.createParents, Disk.read?, mapOf?_bytesOf]

/-- A missing document is created without any text. -/
lemma openOn_missing {disk : Disk} (h : disk = .vacant ∨ disk = .noParent) :
    openOn disk = .ok ⟨.empty, .file (bytesOf .empty)⟩ := by
  rcases h with rfl | rfl <;> rfl

lemma synced_save {next : RawMap} (h : (b.save next).1 = .ok ()) :
    (b.save next).2.map = next ∧ (b.save next).2.Synced := by
  unfold save at h ⊢
  split
  · next disk hwrite => exact ⟨rfl, eq_of_write? hwrite⟩
  · next hwrite => simp [hwrite] at h

/-- On a synced document every call answers as in memory and leaves it synced. -/
lemma Synced.call (h : b.Synced) (c : BackendCall) :
    (Backend.call b c).1 = (Backend.call (⟨b.map⟩ : Memory) c).1 ∧
      (Backend.call b c).2.map.SameTexts (Backend.call (⟨b.map⟩ : Memory) c).2.map ∧
      (Backend.call b c).2.Synced := by
  rcases b.call_cases c with ⟨hchange, hcall⟩ | ⟨next, disk, hchange, hwrite, hcall⟩ |
    ⟨next, hchange, hwrite, hcall⟩
  · rw [hcall]
    exact ⟨rfl, Memory.sameTexts_call_of_no_change hchange, h⟩
  · rw [hcall, Memory.call_of_change hchange]
    exact ⟨rfl, fun _ => rfl, eq_of_write? hwrite⟩
  · -- a file can be written
    rw [h] at hwrite
    cases hwrite

/-! ## Sessions -/

/-- What is done with a document: a call on its backend, or the backend is dropped and the document
opened again. -/
inductive SessionStep where
  | call (c : BackendCall)
  | reopen
  deriving DecidableEq

/-- The call of a step, if it is one. -/
def SessionStep.call? : SessionStep → Option BackendCall
  | call c => some c
  | reopen => none

/-- The answers of the calls in a session, which breaks off where the document cannot be opened
again. -/
def session (b : Document) :
    List SessionStep → Except StoreError (List (Except StoreError BackendAnswer))
  | [] => .ok []
  | .call c :: rest =>
    let (answer, b) := Backend.call b c
    (b.session rest).map (answer :: ·)
  | .reopen :: rest => (openOn b.disk).bind fun b => b.session rest

lemma Synced.session (steps : List SessionStep) :
    ∀ {b : Document} {m : RawMap}, b.Synced → b.map.SameTexts m →
      b.session steps =
        .ok (Backend.calls (⟨m⟩ : Memory) (steps.filterMap SessionStep.call?)).1 := by
  induction steps with
  | nil => exact fun _ _ => rfl
  | cons step rest ih =>
    intro b m h hsame
    cases step with
    | call c =>
      obtain ⟨hanswer, hmap, hsynced⟩ := h.call c
      obtain ⟨hanswer', hmap'⟩ := Memory.call_of_sameTexts hsame c
      have hrest := ih hsynced (m := (Backend.call (⟨m⟩ : Memory) c).2.map)
        fun var => (hmap var).trans (hmap' var)
      simp only [Document.session, hrest, hanswer, hanswer']
      rfl
    | reopen =>
      simp only [Document.session, h.openOn]
      exact ih h hsame

/-- A session on a document that was missing at first answers every call as a backend in memory
does that is never opened again: no opening fails, and what was saved is what is read. -/
theorem session_eq_calls (steps : List SessionStep) {disk : Disk}
    (h : disk = .vacant ∨ disk = .noParent) :
    ((openOn disk).bind fun b => b.session steps) =
        .ok (Backend.calls ({} : Memory) (steps.filterMap SessionStep.call?)).1 ∧
      ∀ (b : Document) (next : RawMap), (b.save next).1 = .ok () →
        openOn (b.save next).2.disk = .ok (b.save next).2 ∧ (b.save next).2.map = next := by
  constructor
  · rw [openOn_missing h]
    exact Synced.session steps rfl fun _ => rfl
  · intro b next hsave
    obtain ⟨hmap, hsynced⟩ := synced_save hsave
    exact ⟨hsynced.openOn, hmap⟩

/-- Empty texts, quotes, line breaks, controls and texts beyond ASCII outlive two openings. -/
theorem session_of_hard_texts :
    (Disk.noParent = .vacant ∨ Disk.noParent = .noParent) ∧
      ((openOn .noParent).bind fun b => b.session [.call (.set ⟨⟨""⟩, "\"\\\n"⟩ "é😀\x01"), .reopen,
          .call (.set ⟨⟨""⟩, ""⟩ ""), .call (.unset ⟨⟨"s"⟩, "k"⟩), .reopen, .call (.entries ⟨""⟩),
          .call (.get ⟨⟨""⟩, "\"\\\n"⟩)]) =
        .ok [.ok .done, .ok .done, .ok .done, .ok (.listing [("", ""), ("\"\\\n", "é😀\x01")]),
          .ok (.text (some "é😀\x01"))] :=
  ⟨.inr rfl, (session_eq_calls _ (.inr rfl)).1.trans (by decide)⟩

end Document

end TypedVars
