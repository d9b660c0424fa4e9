import TypedVars.Proofs.Backend.Calls
import TypedVars.Proofs.Text.ByteOrder

/-!
# What calls make of a map of scopes

The backend in memory and the backend of a document both keep a map of scopes, each with a map of
its keys (`MapBackend`).  A scope comes with its first key and goes with its last one, so every
scope that is kept has a key (`RawMap.Occupied`).  Only then does the removal of what is not there
leave the very same map, and not just one with the same texts (`RawMap.Occupied.unset_of_absent`).

A call that succeeds makes of the text of a variable what it says (`BackendCall.textAfter`), and one
that fails makes nothing of it.  After some calls (`RawMap.Evolved`) the text is therefore that of
the last successful call that set the variable, unless a later one removed it
(`BackendCall.foldl_textAfter_eq_some_iff`).  What follows for reads, listings and removals is the
same for both backends (`Backend.wellKept_of_evolved`).
-/

namespace TypedVars

/-! ## Scopes with a key -/

namespace RawMap

variable {m : RawMap} {var : VarId}

/-- Every scope that is kept has a key. -/
def Occupied (m : RawMap) : Prop :=
  ∀ name vars, m.scopes.get? name = some vars → vars.entries ≠ []

lemma occupied_empty : empty.Occupied := nofun

lemma Occupied.set (h : m.Occupied) (var : VarId) (raw : String) : (m.set var raw).Occupied := by
  intro name vars hvars
  rw [RawMap.set] at hvars
  by_cases hname : name = var.scope.name
  · rw [hname, Dict.get?_insert_self] at hvars
    cases hvars
    exact Dict.entries_ne_nil_iff.2 ⟨_, _, Dict.get?_insert_self ..⟩
  · rw [Dict.get?_insert_of_ne _ hname] at hvars
    exact h name vars hvars

lemma Occupied.unset (h : m.Occupied) (var : VarId) : (m.unset var).Occupied := by
  intro name vars hvars
  rw [RawMap.unset] at hvars
  split at hvars
  · exact h name vars hvars
  · dsimp only at hvars
    by_cases hname : name = var.scope.name
    · split at hvars
      · rw [hname, Dict.get?_erase_self] at hvars
        cases hvars
      · next hrest =>
        rw [hname, Dict.get?_insert_self] at hvars
        cases hvars
        exact fun hnil => hrest (List.isEmpty_iff.2 hnil)
    · split at hvars
      · rw [Dict.get?_erase_of_ne _ hname] at hvars
        exact h name vars hvars
      · rw [Dict.get?_insert_of_ne _ hname] at hvars
        exact h name vars hvars

/-- Where every scope has a key, to remove what is not there makes no difference. -/
lemma Occupied.unset_of_absent (h : m.Occupied) (hvar : m.get? var = none) :
    m.unset var = m := by
  rw [RawMap.unset]
  split
  · rfl
  · next vars hvars =>
    have habsent : vars.get? var.key = none := by
      rwa [RawMap.get?, inScope, hvars, Option.getD_some] at hvar
    have hsome : ¬vars.isEmpty = true := fun hempty => h _ _ hvars (List.isEmpty_iff.1 hempty)
    rw [Dict.erase_of_absent habsent]
    simp only [if_neg hsome]
    rw [Dict.insert_of_present hvars]

/-- A scope without a key, which only a document can bring, would be cleared. -/
example : RawMap.unset ⟨.ofList [("s", .empty)]⟩ ⟨⟨"s"⟩, "k"⟩ = .empty := by decide

/-- The scopes that are kept are those in which there is a text. -/
lemma Occupied.isSome_iff (h : m.Occupied) (scope : Scope) :
    (m.scopes.get? scope.name).isSome = true ↔ ∃ key raw, m.get? ⟨scope, key⟩ = some raw := by
  constructor
  · intro hsome
    obtain ⟨vars, hvars⟩ := Option.isSome_iff_exists.1 hsome
    obtain ⟨key, raw, hget⟩ := Dict.entries_ne_nil_iff.1 (h _ _ hvars)
    exact ⟨key, raw, get?_eq_some_iff.2 ⟨vars, hvars, hget⟩⟩
  · rintro ⟨key, raw, hget⟩
    obtain ⟨vars, hvars, -⟩ := get?_eq_some_iff.1 hget
    exact Option.isSome_iff_exists.2 ⟨vars, hvars⟩

end RawMap

/-! ## What calls leave -/

namespace BackendCall

variable {c : BackendCall} {cs : List BackendCall} {var : VarId} {raw : String}
  {raw? : Option String}

/-- The variable that a call sets or removes. -/
def changed? : BackendCall → Option VarId
  | set var _ | unset var => some var
  | get _ | entries _ => none

/-- The text of a variable after a call that succeeds. -/
def textAfter (var : VarId) (raw? : Option String) : BackendCall → Option String
  | set v raw => if var = v then some raw else raw?
  | unset v => if var = v then none else raw?
  | get _ | entries _ => raw?

/-- Of some calls, the last one that sets or removes a variable sets it to a text. -/
def LastSet (cs : List BackendCall) (var : VarId) (raw : String) : Prop :=
  ∃ before after, cs = before ++ set var raw :: after ∧ ∀ c ∈ after, c.changed? ≠ some var

lemma textAfter_eq_some_iff : c.textAfter var raw? = some raw ↔
    c = set var raw ∨ c.changed? ≠ some var ∧ raw? = some raw := by
  cases c with
  | set v r =>
    by_cases hvar : var = v
    · simp [textAfter, changed?, hvar]
    · simp [textAfter, changed?, hvar, Ne.symm hvar]
  | unset v =>
    by_cases hvar : var = v
    · simp [textAfter, changed?, hvar]
    · simp [textAfter, changed?, hvar, Ne.symm hvar]
  | get v | entries scope => simp [textAfter, changed?]

lemma not_lastSet_nil : ¬LastSet [] var raw := by
  rintro ⟨before, after, heq, -⟩
  simp at heq

lemma lastSet_concat : LastSet (cs ++ [c]) var raw ↔
    c = set var raw ∨ c.changed? ≠ some var ∧ LastSet cs var raw := by
  constructor
  · rintro ⟨before, after, heq, hafter⟩
    rcases List.eq_nil_or_concat' after with rfl | ⟨after, d, rfl⟩
    · exact .inl (List.append_inj_right' heq rfl |> List.singleton_inj.1)
    · rw [← List.cons_append, ← List.append_assoc] at heq
      obtain ⟨hcs, hd⟩ := List.append_inj' heq rfl
      obtain rfl := List.singleton_inj.1 hd
      exact .inr ⟨hafter c (by simp), before, after, hcs,
        fun e he => hafter e (List.mem_append_left _ he)⟩
  · rintro (rfl | ⟨hc, before, after, rfl, hafter⟩)
    · exact ⟨cs, [], rfl, nofun⟩
    · refine ⟨before, after ++ [c], by simp, fun e he => ?_⟩
      rcases List.mem_append.1 he with he | he
      · exact hafter e he
      · rwa [List.mem_singleton.1 he]

/-- After some calls a text stands under a variable that the last of them set, unless a later one
removed it, or that was there at first and that none of them touched. -/
theorem foldl_textAfter_eq_some_iff : cs.foldl (textAfter var) raw? = some raw ↔
    LastSet cs var raw ∨ (∀ c ∈ cs, c.changed? ≠ some var) ∧ raw? = some raw := by
  induction cs using List.reverseRecOn with
  | nil => simp [not_lastSet_nil]
  | append_singleton cs c ih =>
    rw [List.foldl_append, List.foldl_cons, List.foldl_nil, textAfter_eq_some_iff, ih,
      lastSet_concat]
    simp only [List.mem_append, List.mem_singleton, or_imp, forall_and, forall_eq]
    tauto

end BackendCall

namespace RawMap

variable {m m' m'' : RawMap} {c : BackendCall} {cs cs' : List BackendCall} {var : VarId}

/-- One map has come from another by some calls that succeeded. -/
structure Evolved (m m' : RawMap) (cs : List BackendCall) : Prop where
  occupied : m.Occupied → m'.Occupied
  get?_eq : ∀ var, m'.get? var = cs.foldl (BackendCall.textAfter var) (m.get? var)

lemma evolved_refl (m : RawMap) : m.Evolved m [] := ⟨id, fun _ => rfl⟩

lemma Evolved.trans (h : m.Evolved m' cs) (h' : m'.Evolved m'' cs') :
    m.Evolved m'' (cs ++ cs') where
  occupied := h'.occupied ∘ h.occupied
  get?_eq var := by rw [List.foldl_append, ← h.get?_eq, h'.get?_eq]

/-- What a call makes of a map in memory. -/
lemma evolved_call (m : RawMap) (c : BackendCall) :
    m.Evolved (Backend.call (⟨m⟩ : Memory) c).2.map [c] := by
  cases c with
  | set var raw => exact ⟨fun h => h.set var raw, fun other => m.get?_set var other raw⟩
  | unset var => exact ⟨fun h => h.unset var, fun other => m.get?_unset var other⟩
  | get var | entries scope => exact ⟨id, fun _ => rfl⟩

lemma evolved_calls (m : RawMap) (cs : List BackendCall) :
    m.Evolved (Backend.calls (⟨m⟩ : Memory) cs).2.map cs := by
  induction cs generalizing m with
  | nil => exact m.evolved_refl
  | cons c cs ih => exact (m.evolved_call c).trans (ih _)

/-- A call that is no change may as well leave the map as it is. -/
lemma evolved_of_no_change (h : c.change? m = none) : m.Evolved m [c] where
  occupied := id
  get?_eq var :=
    (Memory.sameTexts_call_of_no_change h var).trans ((m.evolved_call c).get?_eq var)

lemma Evolved.get?_of_apart (h : m.Evolved m' [c]) (hc : c.changed? ≠ some var) :
    m'.get? var = m.get? var := by
  refine Option.ext fun raw => ?_
  rw [h.get?_eq, List.foldl_cons, List.foldl_nil, BackendCall.textAfter_eq_some_iff]
  constructor
  · rintro (rfl | ⟨-, hraw⟩)
    · exact absurd rfl hc
    · exact hraw
  · exact fun hraw => .inr ⟨hc, hraw⟩

end RawMap

/-! ## Backends with a map -/

/-- A backend that keeps its texts in a map of scopes. -/
class MapBackend (β : Type) [Backend β] where
  /-- The map of the texts. -/
  map : β → RawMap
  /-- What is read is what is in the map. -/
  call_get : ∀ (b : β) (var : VarId),
    Backend.call b (.get var) = (.ok (.text ((map b).get? var)), b)
  /-- What is listed is what is in the map. -/
  call_entries : ∀ (b : β) (scope : Scope),
    Backend.call b (.entries scope) = (.ok (.listing ((map b).inScope scope).entries), b)
  /-- A call that succeeds has made of the map what it says. -/
  evolved_of_ok : ∀ (b : β) (c : BackendCall), (Backend.call b c).1.isOk = true →
    (map b).Evolved (map (Backend.call b c).2) [c]
  /-- A call that fails has made nothing of the map. -/
  map_of_error : ∀ (b : β) (c : BackendCall), (Backend.call b c).1.isOk = false →
    map (Backend.call b c).2 = map b
  /-- The removal of what is not there succeeds and changes nothing, as long as every scope has a
  key. -/
  call_unset : ∀ (b : β) (var : VarId), (map b).Occupied → (map b).get? var = none →
    Backend.call b (.unset var) = (.ok .done, b)

instance : MapBackend Memory where
  map b := b.map
  call_get _ _ := rfl
  call_entries _ _ := rfl
  evolved_of_ok b c _ := b.map.evolved_call c
  map_of_error b c h := by cases c <;> cases h
  call_unset _ _ hoccupied habsent :=
    Prod.ext rfl (congrArg Memory.mk (hoccupied.unset_of_absent habsent))

instance : MapBackend Document where
  map b := b.map
  call_get _ _ := rfl
  call_entries _ _ := rfl
  evolved_of_ok b c h := by
    rcases b.call_cases c with ⟨hchange, hcall⟩ | ⟨next, disk, hchange, -, hcall⟩ |
      ⟨-, -, -, hcall⟩
    · rw [hcall]
      exact RawMap.evolved_of_no_change hchange
    · have hnext := b.map.evolved_call c
      rw [Memory.call_of_change hchange] at hnext
      rwa [hcall]
    · rw [hcall] at h
      cases h
  map_of_error b c h := by
    rcases b.call_cases c with ⟨-, hcall⟩ | ⟨next, disk, -, -, hcall⟩ | ⟨-, -, -, hcall⟩
    · rw [hcall]
    · rw [hcall] at h
      cases h
    · rw [hcall]
  call_unset b var _ habsent := by
    have hchange : (BackendCall.unset var).change? b.map = none := by
      simp [BackendCall.change?, show b.map.get? var = none from habsent]
    exact Document.call_of_no_change hchange

namespace Backend

variable {β : Type} [Backend β] [MapBackend β] {b : β} {origin : RawMap} {cs : List BackendCall}

/-- How a backend stands that began with the texts of a map, when some calls have succeeded since
then. -/
structure WellKept (b : β) (origin : RawMap) (cs : List BackendCall) : Prop where
  /-- No scope without a key is kept. -/
  occupied : (MapBackend.map b).Occupied
  /-- Every read is answered and changes nothing. -/
  read : ∀ var, ∃ raw?, call b (.get var) = (.ok (.text raw?), b)
  /-- The text of a variable is that of the last call that set it, unless a later one removed it,
  or the one that it began with if there was neither. -/
  text : ∀ var raw, call b (.get var) = (.ok (.text (some raw)), b) ↔
    BackendCall.LastSet cs var raw ∨
      (∀ c ∈ cs, c.changed? ≠ some var) ∧ origin.get? var = some raw
  /-- A call on another variable has no part in it. -/
  apart : ∀ var c, c.changed? ≠ some var →
    (call (call b c).2 (.get var)).1 = (call b (.get var)).1
  /-- The listing of a scope has each of its keys once, in the order of their bytes, with the texts
  that reads answer. -/
  listing : ∀ scope, ∃ entries, call b (.entries scope) = (.ok (.listing entries), b) ∧
    (∀ key raw, (key, raw) ∈ entries ↔
      call b (.get ⟨scope, key⟩) = (.ok (.text (some raw)), b)) ∧
    (entries.map Prod.fst).Nodup ∧ entries.Pairwise fun e e' => bytes e.1 < bytes e'.1
  /-- To remove what is not there succeeds and changes nothing. -/
  absent : ∀ var, call b (.get var) = (.ok (.text none), b) →
    call b (.unset var) = (.ok .done, b)
  /-- With its last key a scope is gone. -/
  gone : ∀ var, (∀ key, key ≠ var.key → call b (.get ⟨var.scope, key⟩) = (.ok (.text none), b)) →
    (call b (.unset var)).1 = .ok .done →
      (MapBackend.map (call b (.unset var)).2).scopes.get? var.scope.name = none

lemma call_get_eq_iff {var : VarId} {raw? : Option String} :
    call b (.get var) = (.ok (.text raw?), b) ↔ (MapBackend.map b).get? var = raw? := by
  simp [MapBackend.call_get]

/-- The removal of the last key of a scope takes the scope away. -/
lemma get?_scope_of_last {var : VarId} (hoccupied : (MapBackend.map b).Occupied)
    (hlast : ∀ key, key ≠ var.key → (MapBackend.map b).get? ⟨var.scope, key⟩ = none)
    (hok : (call b (.unset var)).1.isOk = true) :
    (MapBackend.map (call b (.unset var)).2).scopes.get? var.scope.name = none := by
  have hevolved := MapBackend.evolved_of_ok b _ hok
  rw [← Option.not_isSome_iff_eq_none, (hevolved.occupied hoccupied).isSome_iff]
  rintro ⟨key, raw, hraw⟩
  rw [hevolved.get?_eq, List.foldl_cons, List.foldl_nil,
    BackendCall.textAfter_eq_some_iff] at hraw
  rcases hraw with hset | ⟨hapart, hraw⟩
  · cases hset
  · have hkey : key ≠ var.key := by
      rintro rfl
      exact hapart rfl
    rw [hlast key hkey] at hraw
    cases hraw

/-- Whatever calls have made of its map, a backend keeps it well. -/
theorem wellKept_of_evolved (horigin : origin.Occupied)
    (h : origin.Evolved (MapBackend.map b) cs) : WellKept b origin cs where
  occupied := h.occupied horigin
  read var := ⟨_, MapBackend.call_get b var⟩
  text var raw := by
    rw [call_get_eq_iff, h.get?_eq, BackendCall.foldl_textAfter_eq_some_iff]
  apart var c hc := by
    rw [MapBackend.call_get, MapBackend.call_get]
    cases hok : (call b c).1.isOk with
    | true => rw [(MapBackend.evolved_of_ok b c hok).get?_of_apart hc]
    | false => rw [MapBackend.map_of_error b c hok]
  listing scope := by
    refine ⟨_, MapBackend.call_entries b scope, fun key raw => ?_, Dict.nodup_keys _,
      (Dict.ascending _).imp fun hlt => bytes_lt_iff.2 hlt⟩
    rw [call_get_eq_iff, Dict.mem_entries_iff]
    rfl
  absent var hvar := MapBackend.call_unset b var (h.occupied horigin) (call_get_eq_iff.1 hvar)
  gone var hlast hdone := by
    refine get?_scope_of_last (h.occupied horigin) (fun key hkey => ?_) (by rw [hdone]; rfl)
    exact call_get_eq_iff.1 (hlast key hkey)

end Backend

end TypedVars
