import TypedVars.Proofs.Backend.Document
import TypedVars.Proofs.Json.Number
import TypedVars.Proofs.Store.Readers

/-!
# Listings that are stored again

The listing of a scope is written as a JSON object, and the values of JSON are stored as values of
variables.  The two are inverse: the text of a listing is read as an object with the entries of the
listing, and to store its members, in any order, in a scope where nothing is stored gives a scope
with the same listing and the same text (`Store.dumpJson_transferred`).

The texts of the first scope are arbitrary, up to a number that is not finite, which JSON cannot
write.  The second scope is over a backend that does not fail (`Backend.Unfailing`), as the one in
memory, and the one of a document whose file can be written.
-/

namespace TypedVars

/-! ## Backends that do not fail -/

/-- Whatever calls are made on a backend, none of them fails. -/
def Backend.Unfailing {β : Type} [Backend β] (b : β) : Prop :=
  ∀ cs, ∀ answer ∈ (Backend.calls b cs).1, failure? answer = none

lemma Backend.Unfailing.call {β : Type} [Backend β] {b : β} (h : Unfailing b) (c : BackendCall) :
    failure? (Backend.call b c).1 = none ∧ Unfailing (Backend.call b c).2 :=
  ⟨h [c] _ List.mem_cons_self, fun cs answer hmem => h (c :: cs) answer (.tail _ hmem)⟩

lemma Memory.failure?_call (b : Memory) (c : BackendCall) :
    failure? (Backend.call b c).1 = none := by
  cases c <;> rfl

lemma Memory.unfailing (b : Memory) : Backend.Unfailing b := by
  intro cs
  induction cs generalizing b with
  | nil => exact fun answer hmem => nomatch hmem
  | cons c cs ih =>
    intro answer hmem
    rcases List.mem_cons.1 hmem with rfl | hmem
    · exact b.failure?_call c
    · exact ih _ answer hmem

/-- A document whose file can be written does not fail. -/
lemma Document.unfailing {b : Document} (h : ∀ bytes, (b.disk.write? bytes).isSome = true) :
    Backend.Unfailing b := by
  intro cs
  induction cs generalizing b with
  | nil => exact fun answer hmem => nomatch hmem
  | cons c cs ih =>
    rw [Backend.calls_cons]
    intro answer hmem
    rcases b.call_cases c with ⟨-, hcall⟩ | ⟨next, disk, -, hwrite, hcall⟩ | ⟨next, -, hwrite, -⟩
    · rw [hcall] at hmem
      rcases List.mem_cons.1 hmem with rfl | hmem
      · exact Memory.failure?_call _ c
      · exact ih h answer hmem
    · rw [hcall] at hmem
      rcases List.mem_cons.1 hmem with rfl | hmem
      · rfl
      · refine ih (fun bytes => ?_) answer hmem
        rw [Document.eq_of_write? hwrite]
        rfl
    · have hsome := h (bytesOf next)
      rw [hwrite] at hsome
      cases hsome

namespace Store

variable {β γ : Type} [Backend β] [Backend γ]

/-! ## Storing values -/

section

variable {s : Store γ} {scope : Scope} {var : VarId}

/-- The JSON form of a value is stored as that value. -/
lemma setJson_toJson (s : Store γ) (hkey : var.key ≠ "") (v : Value) :
    s.setJson var v.toJson = s.put var (some v) := by
  cases v <;> exact if_neg hkey

/-- The calls that store the members of a JSON object under their names in a scope. -/
def storing (scope : Scope) (members : List (String × Json)) : List Call :=
  members.map fun (key, j) => .setJson ⟨scope, key⟩ j

/-- What it comes to to store some values in a scope. -/
structure Stores (s : Store γ) (scope : Scope) (es : List (String × Value)) (replies : List Reply)
    (s' : Store γ) : Prop where
  replies : ∀ r ∈ replies, r = .ok .done
  found : ∀ key v, (key, v) ∈ es → Backend.stored s'.backend ⟨scope, key⟩ = some v.encode
  others : ∀ var, (∀ key v, (key, v) ∈ es → var ≠ ⟨scope, key⟩) →
    Backend.stored s'.backend var = Backend.stored s.backend var

variable [AtomicBackend γ]

lemma put_of_unfailing (h : Backend.Unfailing s.backend) (var : VarId) (v : Value) :
    (s.put var (some v)).1 = .ok .done ∧ Backend.Unfailing (s.put var (some v)).2.backend ∧
      ∀ w, Backend.stored (s.put var (some v)).2.backend w =
        if w = var then some v.encode else Backend.stored s.backend w := by
  obtain ⟨hanswer, hnext⟩ := h.call (.ofWrite var (some v))
  have hwrite : s.writeFailure? var (some v) = none := by rw [writeFailure?_eq, hanswer]
  refine ⟨?_, hnext, fun w => stored_written_of_success hwrite⟩
  obtain ⟨answer, hok⟩ := eq_ok_of_failure? hanswer
  rw [put_eq_heard (c := .unset var) (fun _ => rfl) (fun _ => rfl), heard_of_ok hok]
  rfl

/-- Where the backend does not fail, values with distinct keys are all stored, and nothing else is
touched. -/
lemma stores_of_unfailing (scope : Scope) {es : List (String × Value)}
    (h : Backend.Unfailing s.backend)
    (hkeys : ∀ key v, (key, v) ∈ es → key ≠ "") (hdistinct : es.Pairwise (·.1 ≠ ·.1)) :
    let run := s.calls (storing scope (es.map fun (key, v) => (key, v.toJson)))
    s.Stores scope es run.1 run.2 := by
  induction es generalizing s with
  | nil => exact ⟨by simp [storing, calls], by simp, fun var _ => rfl⟩
  | cons e es ih =>
    obtain ⟨key, v⟩ := e
    obtain ⟨hfirst, hrest⟩ := List.pairwise_cons.1 hdistinct
    have hcall : s.call (.setJson ⟨scope, key⟩ v.toJson) = s.put ⟨scope, key⟩ (some v) :=
      s.setJson_toJson (hkeys key v List.mem_cons_self) v
    obtain ⟨hreply, hnext, hstored⟩ := put_of_unfailing h ⟨scope, key⟩ v
    obtain ⟨hreplies, hfound, hothers⟩ :=
      ih hnext (fun key v hmem => hkeys key v (.tail _ hmem)) hrest
    simp only [List.map_cons, storing, calls, hcall]
    refine ⟨?_, ?_, ?_⟩
    · intro r hr
      rcases List.mem_cons.1 hr with rfl | hr
      · exact hreply
      · exact hreplies r hr
    · intro key' v' hmem
      rcases List.mem_cons.1 hmem with hhere | hmem
      · cases hhere
        refine (hothers _ fun key' v' hmem heq => ?_).trans ((hstored _).trans (if_pos rfl))
        exact hfirst _ hmem (congrArg VarId.key heq)
      · exact hfound key' v' hmem
    · intro var hvar
      refine (hothers var fun key' v' hmem => hvar key' v' (.tail _ hmem)).trans ?_
      exact (hstored var).trans (if_neg (hvar key v List.mem_cons_self))

end

/-! ## Listings as JSON -/

/-- Every number that can be read in a scope is finite. -/
def FiniteNumbers (s : Store β) (scope : Scope) : Prop :=
  ∀ key x, valueOf (Backend.stored s.backend ⟨scope, key⟩) = some (.number x) → x.isFinite = true

variable [SteadyBackend β] [SteadyBackend γ] {s : Store β} {s' : Store γ} {scope scope' : Scope}
  {lead : String}

/-- The listing of a scope by what is found in it. -/
lemma exists_listing (s : Store β) (scope : Scope) (lead : String) : ∃ d : Dict Value,
    (s.dump scope lead).1 = .ok (.listing d) ∧
    (s.dumpJson scope lead).1 = .ok (.text (listingJson d).text) ∧
    ∀ key, d.get? key = if lead.toList.isPrefixOf key.toList then
      valueOf (Backend.stored s.backend ⟨scope, key⟩) else none := by
  obtain ⟨d, hentries, hget⟩ := SteadyBackend.entries_eq scope s.backend
  refine ⟨Call.valuesOf (Call.chosen lead d.entries), ?_, ?_, fun key => ?_⟩
  · rw [dump, list_eq, hentries]
    rfl
  · rw [dumpJson, list_eq, hentries]
    rfl
  · rw [Call.valuesOf, Call.chosen, get?_decoded, hget]

omit [Backend β] [Backend γ] [SteadyBackend β] [SteadyBackend γ] in
/-- A listing of finite numbers is read back from its text. -/
lemma parse?_listingJson {d : Dict Value}
    (h : ∀ key x, d.get? key = some (.number x) → x.isFinite = true) :
    Json.parse? (listingJson d).text.toList = some (listingJson d) := by
  apply Json.parse?_text
  refine .object fun member hmember => ?_
  obtain ⟨⟨key, v⟩, hmem, rfl⟩ := List.mem_map.1 hmember
  cases v with
  | number x => exact .number (Double.readsBack_double (h key x (Dict.mem_entries_iff.1 hmem)))
  | string text => exact .string text
  | boolean b => exact .bool b

/-- What a scope holds can be moved to another one through the text of its listing.  The text is
read as an object whose members are the entries of the listing, in the order of the bytes of the
keys; and when the members are stored one by one, in any order, in a scope where nothing is
stored, every call succeeds, and the listing of that scope and its text are the same as those of
the first one. -/
theorem dumpJson_transferred (lead : String)
    (hkeyed : Backend.stored s.backend ⟨scope, ""⟩ = none) (hfinite : s.FiniteNumbers scope)
    (hempty : ∀ key, Backend.stored s'.backend ⟨scope', key⟩ = none)
    (hunfailing : Backend.Unfailing s'.backend) :
    ∃ (d : Dict Value) (text : String), (s.dump scope lead).1 = .ok (.listing d) ∧
      (s.dumpJson scope lead).1 = .ok (.text text) ∧
      d.entries.Pairwise (fun e e' => bytes e.1 < bytes e'.1) ∧
      Json.parse? text.toList =
        some (.object (d.entries.map fun (key, v) => (key, v.toJson))) ∧
      ∀ members : List (String × Json),
        members.Perm (d.entries.map fun (key, v) => (key, v.toJson)) →
        (∀ r ∈ (s'.calls (storing scope' members)).1, r = .ok .done) ∧
        ((s'.calls (storing scope' members)).2.dump scope' "").1 = .ok (.listing d) ∧
        ((s'.calls (storing scope' members)).2.dumpJson scope' "").1 = .ok (.text text) := by
  obtain ⟨d, hdump, hjson, hget⟩ := s.exists_listing scope lead
  refine ⟨d, _, hdump, hjson, d.ascending.imp bytes_lt_iff.2, parse?_listingJson ?_, ?_⟩
  · intro key x hx
    rw [hget] at hx
    exact hfinite key x (Option.ite_none_right_eq_some.1 hx).2
  · intro members hperm
    obtain ⟨es, rfl, hes⟩ : Relation.Comp (· = List.map _ ·) List.Perm members d.entries := by
      rw [List.eq_map_comp_perm]
      exact hperm
    have hkeys : ∀ key v, (key, v) ∈ es → key ≠ "" := by
      rintro key v hmem rfl
      have hfound := Dict.mem_entries_iff.1 (hes.mem_iff.1 hmem)
      rw [hget, hkeyed] at hfound
      exact nomatch (Option.ite_none_right_eq_some.1 hfound).2
    have hdistinct : es.Pairwise (·.1 ≠ ·.1) := by
      exact (hes.pairwise_iff fun h => h.symm).2 d.distinct
    obtain ⟨hreplies, hfound, hothers⟩ :=
      stores_of_unfailing scope' hunfailing hkeys hdistinct
    obtain ⟨d', hdump', hjson', hget'⟩ :=
      (s'.calls (storing scope' (es.map fun (key, v) => (key, v.toJson)))).2.exists_listing
        scope' ""
    have hsame : d' = d := by
      refine Dict.ext_get? fun key => ?_
      rw [hget', if_pos (by rfl)]
      cases hkey : d.get? key with
      | some v =>
        rw [hfound key v (hes.mem_iff.2 (Dict.mem_entries_iff.2 hkey))]
        exact valueOf_map_encode (some v)
      | none =>
        rw [hothers ⟨scope', key⟩ ?_, hempty]
        · rfl
        · intro key' v hmem heq
          obtain rfl : key = key' := congrArg VarId.key heq
          rw [Dict.mem_entries_iff.1 (hes.mem_iff.1 hmem)] at hkey
          cases hkey
    rw [hdump', hjson', hsame]
    exact ⟨hreplies, rfl, rfl⟩

/-- A store with a string full of characters to escape, two numbers in other forms than the store
writes, and a text that cannot be decoded. -/
def mixed : Store Memory where
  backend.map := (((RawMap.empty.set ⟨.global, "k\"\n"⟩ "s:é\\\x00").set
    ⟨.global, "k0"⟩ "n: -12 ").set ⟨.global, "k1"⟩ "n:1e21").set ⟨.global, "k2"⟩ "b:"

/-- Its listing of the keys that begin with `k`, as JSON. -/
def mixedText : String := "\x7b\"k\\\"\\n\":\"é\\\\\\u0000\",\"k0\":-12.0,\"k1\":1e+21\x7d"

/-- A store over a document that has not been written yet. -/
def blank : Store Document where
  backend := ⟨.empty, .vacant⟩

/-- What can be decoded is moved from memory to the document, with its escapes, its point and its
exponent. -/
theorem dumpJson_transferred_mixed :
    Backend.stored mixed.backend ⟨.global, ""⟩ = none ∧ mixed.FiniteNumbers .global ∧
      (∀ key, Backend.stored blank.backend ⟨⟨"new"⟩, key⟩ = none) ∧
      Backend.Unfailing blank.backend ∧
      ∃ members, Json.parse? mixedText.toList = some (.object members) ∧
        (∀ r ∈ (blank.calls (storing ⟨"new"⟩ members)).1, r = .ok .done) ∧
        ((blank.calls (storing ⟨"new"⟩ members)).2.dumpJson ⟨"new"⟩ "").1 =
          .ok (.text mixedText) := by
  have hkeyed : Backend.stored mixed.backend ⟨.global, ""⟩ = none := by decide +kernel
  have hfinite : mixed.FiniteNumbers .global := by
    have hall : ((mixed.backend.map.inScope .global).entries.all fun e =>
        ((valueOf (some e.2)).bind Value.asNumber?).all Double.isFinite) = true := by
      decide +kernel
    intro key x hx
    obtain ⟨raw, hraw, -⟩ := Option.bind_eq_some_iff.1 hx
    have hnumber := List.all_eq_true.1 hall _ (mem_of_lookup hraw)
    rw [hraw] at hx
    simpa [hx, Value.asNumber?] using hnumber
  have hempty : ∀ key, Backend.stored blank.backend ⟨⟨"new"⟩, key⟩ = none := fun key => rfl
  have hunfailing : Backend.Unfailing blank.backend := Document.unfailing fun bytes => rfl
  have htext : (mixed.dumpJson .global "k").1 = .ok (.text mixedText) := by decide +kernel
  obtain ⟨d, text, -, hjson, -, hparse, htransfer⟩ :=
    dumpJson_transferred "k" hkeyed hfinite hempty hunfailing
  cases hjson.symm.trans htext
  obtain ⟨hreplies, -, hsame⟩ := htransfer _ (.refl _)
  exact ⟨hkeyed, hfinite, hempty, hunfailing, _, hparse, hreplies, hsame⟩

end Store

end TypedVars
