import TypedVars.Proofs.Backend.Evolution
import TypedVars.Proofs.Backend.Exposure
import TypedVars.Proofs.Backend.Opening

/-!
# The upkeep of scopes

The document of a map has the scopes of the map as its members, and in them the keys, one by one
(`Document.finds_bytesOf_iff`).  So a scope that is gone from the map is gone from the document with
the next write, and a document without empty scopes stays one (`Document.Filled`) as long as nobody
else brings one with an empty scope to its path.

With what calls make of a map this says how the backends of the library keep their scopes
(`backends_well_kept`): the one in memory after any calls, and the one of a document also when any
of its writes fail.
-/

namespace TypedVars

/-! ## The document of a map -/

namespace Json

lemma members_map_iff {α γ : Type} {R : Json → α → Prop} {g : γ → Json} {f : γ → α}
    (h : ∀ x a, R (g x) a ↔ f x = a) {es : List (String × γ)} {as : List (String × α)} :
    Members R (es.map fun e => (e.1, g e.2)) as ↔ es.map (fun e => (e.1, f e.2)) = as := by
  induction es generalizing as with
  | nil => simp [Members, List.forall₂_nil_left_iff, eq_comm]
  | cons e es ih =>
    rw [List.map_cons, List.map_cons, Members, List.forall₂_cons_left_iff]
    constructor
    · rintro ⟨⟨name, a⟩, rest, ⟨rfl, ha⟩, hrest, rfl⟩
      rw [(h _ _).1 ha, ih.1 hrest]
    · rintro rfl
      exact ⟨_, _, ⟨rfl, (h _ _).2 rfl⟩, ih.2 rfl, rfl⟩

end Json

namespace RawMap

variable {m : RawMap} {found : Members}

lemma occupied_ofMembers (h : ∀ member ∈ found, member.2 ≠ []) : (ofMembers found).Occupied := by
  intro name vars hvars
  obtain ⟨texts, hlast, rfl⟩ := lastEntry_map_iff.1 (Dict.get?_ofList_eq_some_iff.1 hvars)
  obtain ⟨before, after, rfl, -⟩ := hlast
  obtain ⟨e, he⟩ := List.exists_mem_of_ne_nil _ (h (name, texts) (by simp))
  have hkey : ((Dict.ofList texts).get? e.1).isSome = true :=
    Dict.isSome_get?_ofList_iff.2 (List.mem_map_of_mem he)
  obtain ⟨raw, hraw⟩ := Option.isSome_iff_exists.1 hkey
  exact Dict.entries_ne_nil_iff.2 ⟨_, _, hraw⟩

/-- The members that the document of a map has. -/
def members (m : RawMap) : Members := m.scopes.entries.map fun e => (e.1, e.2.entries)

lemma mem_members_iff {name : String} :
    name ∈ m.members.map Prod.fst ↔ (m.scopes.get? name).isSome = true := by
  rw [members, List.map_map, List.mem_map, Option.isSome_iff_exists]
  constructor
  · rintro ⟨⟨name, vars⟩, he, rfl⟩
    exact ⟨vars, Dict.mem_entries_iff.1 he⟩
  · rintro ⟨vars, hvars⟩
    exact ⟨(name, vars), Dict.mem_entries_iff.2 hvars, rfl⟩

lemma isObject_toJson_iff :
    Json.IsObject IsScope m.toJson found ↔ m.members = found := by
  have hscope : ∀ (vars : Dict String) texts,
      IsScope (.object (vars.entries.map fun e => (e.1, .string e.2))) texts ↔
        vars.entries = texts := by
    intro vars texts
    rw [IsScope, Json.isObject_object_iff, Json.members_map_iff (f := id) (by simp)]
    simp
  rw [toJson, Json.isObject_object_iff, members]
  exact Json.members_map_iff (f := Dict.entries) hscope

end RawMap

namespace Document

variable {b : Document} {disk : Disk} {m : RawMap} {found : RawMap.Members}

/-- In the document of a map the scopes and keys of the map are found, and nothing else. -/
theorem finds_bytesOf_iff : Finds (.file (bytesOf m)) found ↔ m.members = found := by
  have hread : Json.parse? m.toJson.text.toList = some m.toJson := Json.parse?_text m.exact_toJson
  have hdocument : ∀ found, m.members = found → DocumentText m.toJson.text.toList found :=
    fun found h => documentText_iff.2 ⟨_, hread, RawMap.isObject_toJson_iff.2 h⟩
  constructor
  · intro h
    rw [finds_file_iff, bytesOf, isEmpty_toUTF8_of_documentText (hdocument _ rfl)] at h
    obtain ⟨text, hbytes, htext⟩ := h
    obtain ⟨j, hj, hfound⟩ := documentText_iff.1 htext
    have hsame : m.toJson.text = text :=
      Option.some.inj ((fromUTF8?_toUTF8 _).symm.trans (fromUTF8?_eq_some_iff.2 hbytes))
    rw [← hsame, hread] at hj
    cases hj
    exact RawMap.isObject_toJson_iff.1 hfound
  · exact fun h => .document (hdocument found h)

/-- A document that is found at a path has no scope without a key. -/
def Filled (disk : Disk) : Prop :=
  ∀ members, Finds disk members → ∀ member ∈ members, member.2 ≠ []

lemma filled_bytesOf (h : m.Occupied) : Filled (.file (bytesOf m)) := by
  intro members hfinds member hmember
  obtain rfl := finds_bytesOf_iff.1 hfinds
  obtain ⟨⟨name, vars⟩, he, rfl⟩ := List.mem_map.1 hmember
  exact h name vars (Dict.mem_entries_iff.1 he)

/-- What opens on a document without empty scopes has none either, in memory or at the path. -/
lemma Filled.openOn (h : Filled disk) (hb : openOn disk = .ok b) :
    b.map.Occupied ∧ Filled b.disk := by
  obtain ⟨members, hfinds⟩ := exists_finds_of_openOn hb
  cases disk with
  | file bytes =>
    rw [openOn_file_of_finds hfinds] at hb
    cases hb
    exact ⟨RawMap.occupied_ofMembers (h members hfinds), h⟩
  | vacant | noParent =>
    rw [openOn_missing (by simp)] at hb
    cases hb
    exact ⟨RawMap.occupied_empty, filled_bytesOf RawMap.occupied_empty⟩
  | _ => cases hfinds

/-! ## Runs -/

/-- The calls among some steps that succeed, in their order. -/
def succeeded (b : Document) : List SharedStep → List BackendCall
  | [] => []
  | .call c :: rest =>
    if (Backend.call b c).1.isOk then c :: (b.step (.call c)).succeeded rest
    else (b.step (.call c)).succeeded rest
  | .outside disk :: rest => (b.step (.outside disk)).succeeded rest

/-- The calls that succeed, and nothing else, make the map what it is. -/
lemma evolved_run (b : Document) (steps : List SharedStep) :
    b.map.Evolved (b.run steps).map (b.succeeded steps) := by
  induction steps generalizing b with
  | nil => exact b.map.evolved_refl
  | cons step rest ih =>
    rw [run, List.foldl_cons, ← run]
    cases step with
    | outside disk => exact ih { b with disk }
    | call c =>
      cases hok : (Backend.call b c).1.isOk with
      | true =>
        simp only [succeeded, hok, if_true]
        exact (MapBackend.evolved_of_ok b c hok).trans (ih _)
      | false =>
        have hmap : (b.step (.call c)).map = b.map := MapBackend.map_of_error b c hok
        simp only [succeeded, hok, Bool.false_eq_true, if_false]
        rw [← hmap]
        exact ih _

/-- As long as nobody else brings a document with an empty scope to the path, there is none. -/
lemma filled_run (hmap : b.map.Occupied) (hdisk : Filled b.disk) {steps : List SharedStep}
    (h : ∀ disk, .outside disk ∈ steps → Filled disk) : Filled (b.run steps).disk := by
  induction steps generalizing b with
  | nil => exact hdisk
  | cons step rest ih =>
    have hrest : ∀ disk, .outside disk ∈ rest → Filled disk :=
      fun disk hmem => h disk (List.mem_cons_of_mem _ hmem)
    rw [run, List.foldl_cons, ← run]
    cases step with
    | outside disk => exact ih hmap (h disk List.mem_cons_self) hrest
    | call c =>
      cases hwrites : b.writes c with
      | true =>
        obtain ⟨next, hmemory, hcall⟩ := call_of_writes hwrites
        have hnext := (b.map.evolved_call c).occupied hmap
        rw [hmemory] at hnext
        rw [Document.step, hcall]
        exact ih hnext (filled_bytesOf hnext) hrest
      | false =>
        rw [Document.step, call_of_not_writes hwrites]
        exact ih hmap hdisk hrest

lemma isOk_call (b : Document) (c : BackendCall) : (Backend.call b c).1.isOk = !b.refuses c := by
  rcases b.call_cases c with ⟨hchange, hcall⟩ | ⟨next, disk, hchange, hwrite, hcall⟩ |
    ⟨next, hchange, hwrite, hcall⟩
  · rw [hcall]
    simp only [refuses, hchange]
    cases c <;> rfl
  · rw [hcall]
    simp [refuses, hchange, hwrite, Except.isOk, Except.toBool]
  · rw [hcall]
    simp [refuses, hchange, hwrite, Except.isOk, Except.toBool]

/-- To remove what is there is a change, so it succeeds just where it is written. -/
lemma writes_unset {var : VarId} {raw : String} (hvar : b.map.get? var = some raw)
    (hok : (Backend.call b (.unset var)).1.isOk = true) : b.writes (.unset var) = true := by
  have hchange : (BackendCall.unset var).change? b.map = some (b.map.unset var) := by
    simp [BackendCall.change?, hvar]
  rw [isOk_call] at hok
  simpa [writes, refuses, hchange, Option.isSome_iff_ne_none] using hok

lemma finds_of_writes {c : BackendCall} (h : b.writes c = true) :
    Finds (Backend.call b c).2.disk found ↔ (Backend.call b c).2.map.members = found := by
  obtain ⟨next, -, hcall⟩ := call_of_writes h
  rw [hcall]
  exact finds_bytesOf_iff

end Document

/-! ## The backends of the library -/

/-- What has become of the backend in memory, empty at first, after some calls. -/
structure Memory.KeptAfter (cs : List BackendCall) : Prop where
  /-- No call has failed. -/
  served : ∀ answer ∈ (Backend.calls ({} : Memory) cs).1, answer.isOk = true
  kept : Backend.WellKept (Backend.calls ({} : Memory) cs).2 .empty cs
  /-- The size of a scope is the length of its listing. -/
  size : ∀ scope entries,
    (Backend.call (Backend.calls ({} : Memory) cs).2 (.entries scope)).1 = .ok (.listing entries) →
      (Backend.calls ({} : Memory) cs).2.size scope = entries.length ∧
      ((Backend.calls ({} : Memory) cs).2.isEmpty scope = true ↔ entries = [])

/-- What has become of a document after some steps in which others may be at its path, so that any
of its writes may fail. -/
structure Document.KeptAfter (b : Document) (steps : List SharedStep) : Prop where
  /-- A call fails just where it is a change that cannot be written. -/
  failed : ∀ c, (Backend.call (b.run steps) c).1.isOk = !(b.run steps).refuses c
  kept : Backend.WellKept (b.run steps) b.map (b.succeeded steps)
  /-- There is no scope without a key in the document, unless others bring one there. -/
  filled : (∀ disk, .outside disk ∈ steps → Filled disk) → Filled (b.run steps).disk
  /-- Whatever they bring, after a write the document has the scopes of the map and no others. -/
  saved : ∀ c, (b.run steps).writes c = true →
    ∀ found, Finds (Backend.call (b.run steps) c).2.disk found ↔
      (Backend.call (b.run steps) c).2.map.members = found
  /-- When the last key of a scope is removed, there is a document without this scope. -/
  gone : ∀ var raw, Backend.call (b.run steps) (.get var) = (.ok (.text (some raw)), b.run steps) →
    (∀ key, key ≠ var.key →
      Backend.call (b.run steps) (.get ⟨var.scope, key⟩) = (.ok (.text none), b.run steps)) →
    (Backend.call (b.run steps) (.unset var)).1 = .ok .done →
      (∃ found, Finds (Backend.call (b.run steps) (.unset var)).2.disk found) ∧
      ∀ found, Finds (Backend.call (b.run steps) (.unset var)).2.disk found →
        var.scope.name ∉ found.map Prod.fst

namespace Memory

variable {b : Memory}

lemma isOk_call (b : Memory) (c : BackendCall) : (Backend.call b c).1.isOk = true := by
  cases c <;> rfl

lemma isOk_calls (cs : List BackendCall) :
    ∀ answer ∈ (Backend.calls b cs).1, answer.isOk = true := by
  induction cs generalizing b with
  | nil => exact nofun
  | cons c cs ih =>
    rw [Backend.calls_cons]
    exact List.forall_mem_cons.2 ⟨b.isOk_call c, ih⟩

lemma keptAfter (cs : List BackendCall) : KeptAfter cs where
  served := isOk_calls cs
  kept := Backend.wellKept_of_evolved RawMap.occupied_empty (RawMap.evolved_calls .empty cs)
  size scope entries h := by
    cases h
    exact ⟨rfl, by simp [isEmpty, size, Dict.size]⟩

end Memory

namespace Document

variable {b : Document} {disk : Disk}

lemma keptAfter (hmap : b.map.Occupied) (hdisk : Filled b.disk) (steps : List SharedStep) :
    b.KeptAfter steps where
  failed c := (b.run steps).isOk_call c
  kept := Backend.wellKept_of_evolved hmap (b.evolved_run steps)
  filled h := filled_run hmap hdisk h
  saved _ hwrites _ := finds_of_writes hwrites
  gone var raw hvar hlast hdone := by
    have hoccupied := (b.evolved_run steps).occupied hmap
    have hok : (Backend.call (b.run steps) (.unset var)).1.isOk = true := by
      rw [hdone]
      rfl
    have hraw : (b.run steps).map.get? var = some raw := Backend.call_get_eq_iff.1 hvar
    have hothers : ∀ key, key ≠ var.key → (b.run steps).map.get? ⟨var.scope, key⟩ = none :=
      fun key hkey => Backend.call_get_eq_iff.1 (hlast key hkey)
    have hgone := Backend.get?_scope_of_last hoccupied hothers hok
    have hwrites := writes_unset hraw hok
    refine ⟨⟨_, (finds_of_writes hwrites).2 rfl⟩, fun found hfound => ?_⟩
    obtain rfl := (finds_of_writes hwrites).1 hfound
    rw [RawMap.mem_members_iff, Option.not_isSome_iff_eq_none]
    exact hgone

end Document

/-- Both backends keep their scopes well: the one in memory, empty at first, under any calls, and
the one of a document that had no empty scope, under any calls and whichever writes fail. -/
theorem backends_well_kept :
    (∀ cs, Memory.KeptAfter cs) ∧
      ∀ disk b steps, Document.Filled disk → Document.openOn disk = .ok b → b.KeptAfter steps := by
  refine ⟨Memory.keptAfter, fun disk b steps hfilled hopen => ?_⟩
  obtain ⟨hmap, hdisk⟩ := hfilled.openOn hopen
  exact Document.keptAfter hmap hdisk steps

namespace Document

/-- A document with one text, as it is after the write. -/
def oneText : Document :=
  let map := RawMap.empty.set ⟨⟨"s"⟩, "k"⟩ "n:1"
  ⟨map, .file (bytesOf map)⟩

/-- A second text is set, then a directory is in the way of a removal, and then the file is back and
both texts are removed. -/
def blockade : List SharedStep :=
  [.call (.set ⟨⟨"s"⟩, ""⟩ "b:1"), .outside .directory, .call (.unset ⟨⟨"s"⟩, "k"⟩),
    .outside oneText.disk, .call (.unset ⟨⟨"s"⟩, ""⟩), .call (.unset ⟨⟨"s"⟩, "k"⟩)]

/-- A removal that fails has no part in the texts, and the last one takes the scope away. -/
theorem blockade_well_kept :
    Filled oneText.disk ∧ openOn oneText.disk = .ok oneText ∧ oneText.KeptAfter blockade ∧
      oneText.answers blockade = [.ok .done, .error (.backend none), .ok .done, .ok .done] ∧
      (oneText.run blockade).map = .empty := by
  have hsynced : oneText.Synced := rfl
  have hfilled : Filled oneText.disk := filled_bytesOf (RawMap.occupied_empty.set _ _)
  exact ⟨hfilled, hsynced.openOn, backends_well_kept.2 _ _ _ hfilled hsynced.openOn, by decide,
    by decide⟩

end Document

end TypedVars
