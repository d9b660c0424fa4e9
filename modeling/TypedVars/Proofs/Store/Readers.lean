import TypedVars.Proofs.Store.Demand
import TypedVars.Proofs.Store.Refinement
import TypedVars.Proofs.Text.ByteOrder

/-!
# All readers draw the same line

Four parts of a store read a stored text: a read, the question whether anything is there, the read
under a lock, and the listing of a scope.  Each looks at the text in its own way.  They agree on
every text, also on one that was put there by other means than the store
(`Store.readers_agree`): it is nothing, or the one value that all of them see, or it cannot be
decoded, and then something is there, a read answers that very text as its failure, and the others
leave it out.

This holds over a backend that always answers what it has (`SteadyBackend`), as the one in memory
and the one of a document do.
-/

namespace TypedVars

/-- A backend that answers every read and every listing, with the texts that stand there. -/
class SteadyBackend (β : Type) [Backend β] : Prop extends AtomicBackend β where
  get_eq (var : VarId) (b : β) : Backend.get var b = (.ok (Backend.stored b var), b)
  entries_eq (scope : Scope) (b : β) : ∃ d : Dict String,
    Backend.entries scope b = (.ok d.entries, b) ∧ ∀ key, d.get? key = Backend.stored b ⟨scope, key⟩

instance : SteadyBackend Memory where
  get_eq _ _ := rfl
  entries_eq scope b := ⟨b.map.inScope scope, rfl, fun _ => rfl⟩

instance : SteadyBackend Document where
  get_eq _ _ := rfl
  entries_eq scope b := ⟨b.map.inScope scope, rfl, fun _ => rfl⟩

/-- The value that a read answers, if it answers one. -/
def Answer.given? : Reply → Option Value
  | .ok (.value v) => v
  | _ => none

lemma given?_replyOf (raw : Option String) : Answer.given? (replyOf raw) = valueOf raw := by
  cases raw with
  | none => rfl
  | some raw =>
    rw [replyOf, valueOf, Option.bind_some]
    cases Value.decode raw <;> rfl

lemma valueOf_eq_some_iff {raw : Option String} {v : Value} :
    valueOf raw = some v ↔ replyOf raw = .ok (.value (some v)) := by
  rw [← given?_replyOf]
  rcases replyOf raw with e | a
  · exact ⟨nofun, nofun⟩
  · cases a <;> simp [Answer.given?]

/-- Only the empty text is read as nothing. -/
lemma Value.decode_eq_absent_iff {raw : String} : Value.decode raw = .absent ↔ raw = "" := by
  constructor
  · intro h
    unfold decode readChars at h
    split at h
    · next hnil => exact String.toList_eq_nil_iff.1 hnil
    · split at h <;> cases h
    · cases h
    · cases h
    · cases h
    · cases h
  · rintro rfl
    rfl

namespace Store

variable {β : Type} [Backend β]

/-- What the readers of a scope, and its listing by a text with which the keys begin, say of one
another. -/
structure ReadersAgree (s : Store β) (scope : Scope) (lead : String) : Prop where
  /-- Nothing is there exactly where a read answers nothing. -/
  isSet : ∀ key, key ≠ "" → ((s.isSet ⟨scope, key⟩).1 = .ok (.flag false) ↔
    (s.get ⟨scope, key⟩).1 = .ok (.value none))
  /-- A read under the lock finds the value that a read answers, and otherwise nothing. -/
  fetch : ∀ key, key ≠ "" →
    (s.fetch ⟨scope, key⟩).1 = .ok (Answer.given? (s.get ⟨scope, key⟩).1)
  /-- So an update writes what its function makes of that value, whatever the function is. -/
  update : ∀ key f, key ≠ "" → s.locks.Unused → (s.update ⟨scope, key⟩ f).1 =
    (s.set ⟨scope, key⟩ (f (Answer.given? (s.get ⟨scope, key⟩).1))).1.map fun _ =>
      .replaced (Answer.given? (s.get ⟨scope, key⟩).1) (f (Answer.given? (s.get ⟨scope, key⟩).1))
  /-- Where a read answers neither a value nor nothing, its failure is the very text that stands
  there, which cannot be decoded; and something is there. -/
  undecodable : ∀ key, key ≠ "" → (∀ v, (s.get ⟨scope, key⟩).1 ≠ .ok (.value v)) →
    ∃ raw, Backend.stored s.backend ⟨scope, key⟩ = some raw ∧ Value.decode raw = .undecodable ∧
      (s.get ⟨scope, key⟩).1 = .error (.undecodable raw) ∧
      (s.isSet ⟨scope, key⟩).1 = .ok (.flag true)
  /-- The listing has the values that reads answer, of the keys that it is about, in the order of
  the bytes of the keys. -/
  dump : ∃ d : Dict Value, (s.dump scope lead).1 = .ok (.listing d) ∧
    (∀ key v, key ≠ "" → ((key, v) ∈ d.entries ↔
      lead.toList <+: key.toList ∧ (s.get ⟨scope, key⟩).1 = .ok (.value (some v)))) ∧
    d.entries.Pairwise fun e e' => bytes e.1 < bytes e'.1
  /-- It counts every text of these keys that cannot be decoded once. -/
  counted : ∃ entries, (Backend.entries scope s.backend).1 = .ok entries ∧
    (entries.map Prod.fst).Nodup ∧
    (∀ key raw, (key, raw) ∈ entries ↔ Backend.stored s.backend ⟨scope, key⟩ = some raw) ∧
    (s.dump scope lead).2.journal.counters.decodeErrors = s.journal.counters.decodeErrors +
      entries.countP fun e => lead.toList.isPrefixOf e.1.toList ∧ Value.decode e.2 = .undecodable

variable [SteadyBackend β] {s : Store β} {var : VarId} {scope : Scope} {lead : String}

lemma readFailure?_of_steady (s : Store β) (var : VarId) : s.readFailure? var = none := by
  rw [readFailure?, SteadyBackend.get_eq]
  rfl

lemma get_of_steady (hkey : var.key ≠ "") :
    (s.get var).1 = replyOf (Backend.stored s.backend var) :=
  get_of_success hkey (s.readFailure?_of_steady var)

lemma isSet_of_steady (hkey : var.key ≠ "") :
    (s.isSet var).1 = .ok (.flag ((Backend.stored s.backend var).any (· ≠ ""))) := by
  rw [isSet_eq_heard hkey, Backend.call, SteadyBackend.get_eq]
  rfl

lemma update_of_steady (hkey : var.key ≠ "") (h : s.locks.Unused)
    (f : Option Value → Option Value) : (s.update var f).1 =
      (s.set var (f (valueOf (Backend.stored s.backend var)))).1.map fun _ =>
        .replaced (valueOf (Backend.stored s.backend var))
          (f (valueOf (Backend.stored s.backend var))) := by
  have hfetch := fetch_of_success (s.readFailure?_of_steady var)
  have hsame : (s.fetch var).2.backend = s.backend := by
    rw [(moved_fetch s var).backend, SteadyBackend.get_eq]
  rw [update, ((locked_alone hkey h (.update f)).found _ hfetch).1, commit_congr hsame,
    (commit_eq s var _ _).1, set, if_neg hkey]
  change (s.write var (f (valueOf (Backend.stored s.backend var)))).1.map _ =
    ((s.write var (f (valueOf (Backend.stored s.backend var)))).1.map fun _ => Answer.done).map _
  cases (s.write var (f (valueOf (Backend.stored s.backend var)))).1 <;> rfl

/-- What a text that stands there is for those who ask only whether anything is. -/
lemma any_ne_iff {raw : Option String} :
    raw.any (· ≠ "") = false ↔ replyOf raw = .ok (.value none) := by
  cases raw with
  | none => exact ⟨fun _ => rfl, fun _ => rfl⟩
  | some raw =>
    have habsent : Value.decode raw = .absent ↔ raw = "" := Value.decode_eq_absent_iff
    rw [replyOf, Option.any_some]
    cases hdecode : Value.decode raw with
    | absent => simp [habsent.1 hdecode]
    | value v | undecodable =>
      rw [hdecode] at habsent
      simpa using habsent

lemma decodeErrors_noteSkipped (scope : Scope) (j : Journal) (entries : List (String × String)) :
    (noteSkipped scope j entries).counters.decodeErrors = j.counters.decodeErrors +
      entries.countP fun e => Value.decode e.2 = .undecodable := by
  simp only [Journal.noteSkipped_eq, Journal.report, foldl_count_skips, length_skips]

lemma listing_of_steady (s : Store β) (scope : Scope) (lead : String) : ∃ d : Dict String,
    (Backend.entries scope s.backend).1 = .ok d.entries ∧
    (∀ key, d.get? key = Backend.stored s.backend ⟨scope, key⟩) ∧
    (s.dump scope lead).1 = .ok (.listing (Call.valuesOf (Call.chosen lead d.entries))) ∧
    (s.dump scope lead).2.journal = noteSkipped scope s.journal (Call.chosen lead d.entries) := by
  obtain ⟨d, hentries, hget⟩ := SteadyBackend.entries_eq scope s.backend
  refine ⟨d, by rw [hentries], hget, ?_, ?_⟩
  · rw [dump, list_eq, hentries]
    rfl
  · rw [dump, list_eq, hentries]
    rfl

theorem readersAgree (s : Store β) (scope : Scope) (lead : String) :
    s.ReadersAgree scope lead where
  isSet key hkey := by
    have hk : (⟨scope, key⟩ : VarId).key ≠ "" := hkey
    rw [isSet_of_steady hk, get_of_steady hk, ← any_ne_iff]
    simp only [Except.ok.injEq, Answer.flag.injEq]
  fetch key hkey := by
    rw [get_of_steady hkey, given?_replyOf, fetch_of_success (s.readFailure?_of_steady _)]
  update key f hkey h := by
    rw [get_of_steady hkey, given?_replyOf]
    exact update_of_steady hkey h f
  undecodable key hkey hno := by
    have hk : (⟨scope, key⟩ : VarId).key ≠ "" := hkey
    rw [get_of_steady hk, isSet_of_steady hk] at *
    cases hstored : Backend.stored s.backend ⟨scope, key⟩ with
    | none =>
      rw [hstored] at hno
      exact absurd rfl (hno none)
    | some raw =>
      rw [hstored] at hno
      have hset : (some raw).any (· ≠ "") = true := by
        rw [← Bool.not_eq_false, any_ne_iff]
        exact hno none
      refine ⟨raw, rfl, ?_⟩
      rw [hset]
      rw [replyOf] at hno ⊢
      cases hdecode : Value.decode raw with
      | absent | value v =>
        rw [hdecode] at hno
        exact absurd rfl (hno _)
      | undecodable => exact ⟨rfl, rfl, rfl⟩
  dump := by
    obtain ⟨d, -, hget, hdump, -⟩ := s.listing_of_steady scope lead
    refine ⟨_, hdump, ?_, ?_⟩
    · intro key v hkey
      have hk : (⟨scope, key⟩ : VarId).key ≠ "" := hkey
      rw [get_of_steady hk, ← hget, Dict.mem_entries_iff, Call.valuesOf, Call.chosen, get?_decoded,
        ← List.isPrefixOf_iff_prefix, Option.ite_none_right_eq_some, valueOf_eq_some_iff]
    · exact (Dict.ascending _).imp fun h => bytes_lt_iff.2 h
  counted := by
    obtain ⟨d, hentries, hget, -, hjournal⟩ := s.listing_of_steady scope lead
    refine ⟨d.entries, hentries, d.nodup_keys, ?_, ?_⟩
    · intro key raw
      rw [Dict.mem_entries_iff, hget]
    · rw [hjournal, decodeErrors_noteSkipped, Call.chosen, List.countP_filter]
      simp only [Bool.decide_and, Bool.decide_eq_true, Bool.and_comm]

/-- Whatever texts a backend in memory, or a document, has: all readers draw the same line. -/
theorem readers_agree :
    (∀ (s : Store Memory) (scope : Scope) (lead : String), s.ReadersAgree scope lead) ∧
      ∀ (s : Store Document) (scope : Scope) (lead : String), s.ReadersAgree scope lead :=
  ⟨readersAgree, readersAgree⟩

/-- Of an empty text, one that cannot be decoded, and a value, only the value is listed. -/
example :
    let map :=
      ((RawMap.empty.set ⟨.global, "a"⟩ "").set ⟨.global, "b"⟩ "b:").set ⟨.global, "c"⟩ "b:1"
    (({ backend := { map } } : Store Memory).dump .global "").1 =
      .ok (.listing (.ofList [("c", .boolean true)])) := by
  decide +kernel

end Store

end TypedVars
