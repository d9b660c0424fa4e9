import TypedVars.Proofs.Store.Reference
import TypedVars.Proofs.Store.Reports
import TypedVars.Proofs.Store.Serial
import TypedVars.Proofs.Value

/-!
# The store is a map of values

A store over a backend in memory that is written through the store alone answers every call as a
map of values does (`Store.Refined`).  The two are related by `Store.Represents`: the text of
each variable is the stored form of the value that the map has for it, and nobody uses a lock.
Every call answers the same on both sides and keeps them related (`Represents.agrees`), because a
value is what its stored form is read as, and the text of a listing shows its entries
(`Bindings.text_listingJson`).

So no text comes to be stored that cannot be decoded, and the journal has nothing to tell of such
texts (`Journal.decodeFailures`).
-/

namespace TypedVars

/-! ## What the journal tells of undecodable texts -/

/-- Whether an event tells of a text that could not be decoded. -/
def Event.isDecodeFailure : Event → Bool
  | .undecodable .. | .discarded .. | .skipped .. => true
  | _ => false

/-- The number of texts that could not be decoded, and the events that tell of them. -/
def Journal.decodeFailures (j : Journal) : Nat × List Event :=
  (j.counters.decodeErrors, j.events.filter (·.isDecodeFailure))

/-- A report of other events tells of no such text. -/
lemma Journal.decodeFailures_report (j : Journal) {es : List Event}
    (h : ∀ e ∈ es, e.isDecodeFailure = false) :
    (j.report es).decodeFailures = j.decodeFailures := by
  have hcount : ∀ k, (es.foldl Counters.count k).decodeErrors = k.decodeErrors := by
    induction es with
    | nil => exact fun k => rfl
    | cons e es ih =>
      intro k
      rw [List.foldl_cons, ih fun e' he' => h e' (List.mem_cons_of_mem e he')]
      have he := h e List.mem_cons_self
      cases e with
      | ready | opened | reset | incremented | lockAcquired | lockTimedOut => rfl
      | undecodable | discarded | skipped => cases he
  have hevents : es.filter (·.isDecodeFailure) = [] :=
    List.filter_eq_nil_iff.2 fun e he => by rw [h e he]; decide
  simp only [decodeFailures, report, List.filter_append, hcount, hevents, List.append_nil]

/-! ## Listings as text -/

namespace Bindings

lemma toList_escaped (c : Char) : (escaped c).toList = Json.stringChar c := by
  have hcontrol : ∀ n < 0x20, ("\\u00" ++ (if n < 0x10 then "0" else "1") ++
      String.singleton (Nat.digitChar (n % 0x10))).toList =
      ['\\', 'u', '0', '0', Json.hexDigit (n / 16), Json.hexDigit (n % 16)] := by decide
  unfold Json.stringChar
  split
  case h_8 hquote hslash hback hfeed hline hreturn htab =>
    have hplain : escapeLetters.lookup c = none := by
      simp only [escapeLetters, List.lookup_eq_none_iff, List.forall_mem_cons, bne_iff_ne]
      exact ⟨hquote, hslash, hback, hfeed, hline, hreturn, htab, nofun⟩
    simp only [escaped, hplain]
    split
    · next hlow => exact hcontrol _ hlow
    · exact String.toList_singleton c
  all_goals decide

lemma toList_quoted (s : String) : (quoted s).toList = Json.stringChars s := by
  have hchars : (String.join (s.toList.map escaped)).toList =
      s.toList.flatMap Json.stringChar := by
    rw [String.toList_join, List.flatMap_map]
    exact congrArg (List.flatMap · _) (funext toList_escaped)
  rw [quoted, String.toList_append, String.toList_append, hchars]
  rfl

lemma toList_shown (v : Value) : (shown v).toList = v.toJson.chars := by
  cases v with
  | number x =>
    rw [shown, Value.toJson, Json.chars, Json.numberChars, Double.jsonText?]
    cases x.jsonChars? with
    | none => rfl
    | some cs => exact String.toList_ofList
  | string s => rw [shown, Value.toJson, Json.chars, toList_quoted]
  | boolean b => cases b <;> rw [shown, Value.toJson, Json.chars] <;> rfl

lemma toList_member (e : String × Value) :
    (member e).toList = Json.stringChars e.1 ++ ':' :: e.2.toJson.chars := by
  rw [member, String.toList_append, String.toList_append, toList_quoted, toList_shown,
    List.append_assoc]
  rfl

/-- The entries from one on, with commas between them, are the members of an object from one on. -/
lemma toList_members (e : String × Value) (es : List (String × Value)) :
    (",".intercalate ((e :: es).map member)).toList ++ ['}'] =
      (member e).toList ++ Json.membersChars (es.map fun (key, v) => (key, v.toJson)) := by
  induction es generalizing e with
  | nil => rw [List.map_singleton, String.intercalate_singleton]; rfl
  | cons e' es ih =>
    have hrest := ih e'
    rw [toList_member] at hrest
    rw [List.map_cons, List.map_cons, String.intercalate_cons_cons, ← List.map_cons,
      String.toList_append, String.toList_append, List.append_assoc, List.append_assoc, hrest]
    simp only [List.map_cons, Json.membersChars, List.append_assoc, List.cons_append]
    rfl

/-- A listing is shown as the object of its entries is written. -/
lemma text_listingJson (d : Dict Value) : (Store.listingJson d).text = listingText d := by
  apply String.toList_inj.1
  rw [Json.text, String.toList_ofList, Store.listingJson, listingText, String.toList_append,
    String.toList_append, List.append_assoc]
  cases d.entries with
  | nil => rfl
  | cons e es =>
    have hmembers := toList_members e es
    rw [toList_member, List.append_assoc] at hmembers
    exact (congrArg ('{' :: ·) hmembers).symm

end Bindings

namespace Store

section

variable {β : Type} [Backend β] {s : Store β} {var : VarId} {scope : Scope} {lead : String}

/-- The backend has no text for a variable that could not be decoded. -/
def Readable (s : Store β) (var : VarId) : Prop :=
  ∀ raw, (Backend.get var s.backend).1 = .ok (some raw) → Value.decode raw ≠ .undecodable

lemma journal_get (h : s.Readable var) : (s.get var).2.journal = s.journal := by
  by_cases hkey : var.key = ""
  · rw [get, if_pos hkey]
  · rcases hget : (Backend.get var s.backend).1 with e | _ | raw
    · simp only [get, if_neg hkey, ask_eq, hget]
    · simp only [get, if_neg hkey, ask_eq, hget]
    · have hraw := h raw hget
      simp only [get, if_neg hkey, ask_eq, hget]
      cases hdecode : Value.decode raw with
      | undecodable => exact absurd hdecode hraw
      | absent | value v => rfl

lemma journal_fetch (h : s.Readable var) : (s.fetch var).2.journal = s.journal := by
  rcases s.journal_fetch_cases var with ⟨e, -, -, hjournal⟩ | ⟨raw, hget, -, hjournal⟩
  · exact hjournal
  · rw [hjournal, discards_of_decodable fun r hr => h r (hr ▸ hget), Journal.report_nil]

lemma decodeFailures_commit (job : Job) (current : Option Value) :
    (s.commit var job current).2.journal.decodeFailures = s.journal.decodeFailures := by
  rw [journal_commit]
  apply Journal.decodeFailures_report
  cases (job.decide current).reset <;> simp [resets, Event.isDecodeFailure]

omit [Backend β] in
lemma decodeFailures_conclude (job : Job) (reply : Reply) :
    (s.conclude var job reply).journal.decodeFailures = s.journal.decodeFailures := by
  rw [journal_conclude]
  apply Journal.decodeFailures_report
  unfold conclusions
  split <;> simp [Event.isDecodeFailure]

/-- A locked call that finds a text which can be decoded tells of none that cannot. -/
lemma decodeFailures_locked (hkey : var.key ≠ "") (hunused : s.locks.Unused)
    (h : s.Readable var) (job : Job) :
    (s.locked var job).2.journal.decodeFailures = s.journal.decodeFailures := by
  have hgranted : ((s.request var soleTicket).granted var).journal.decodeFailures =
      s.journal.decodeFailures := by
    have hjournal : ((s.request var soleTicket).granted var).journal =
        s.journal.report [.lockAcquired var] := Journal.lockGranted_eq _ _
    rw [hjournal]
    exact s.journal.decodeFailures_report (List.forall_mem_singleton.2 rfl)
  have hfetch := journal_fetch (s := (s.request var soleTicket).granted var) h
  rw [locked_of_unused hkey hunused, ← hgranted, ← hfetch]
  rcases ((s.request var soleTicket).granted var).fetch var with ⟨_ | current, s'⟩
  · rfl
  · exact (decodeFailures_conclude _ _).trans (decodeFailures_commit job current)

/-- A listing skips nothing where every text of the scope can be decoded. -/
lemma journal_list (lead : String) {entries : List (String × String)}
    (hentries : (Backend.entries scope s.backend).1 = .ok entries)
    (h : ∀ e ∈ entries, Value.decode e.2 ≠ .undecodable) :
    (s.list scope lead).2.journal = s.journal := by
  have hskips : Journal.skips scope (Call.chosen lead entries) = [] := by
    rw [← List.length_eq_zero_iff, length_skips, List.countP_eq_zero]
    intro e he
    simpa using h e (List.mem_filter.1 he).1
  have hnote : noteSkipped scope s.journal (Call.chosen lead entries) = s.journal := by
    rw [Journal.noteSkipped_eq, hskips, Journal.report_nil]
  simp only [list, ask_eq, hentries, note]
  exact hnote

end

/-! ## The simulation -/

/-- A store whose backend has the stored forms of the values of a map, and whose locks are not in
use. -/
structure Represents (s : Store Memory) (m : Bindings) : Prop where
  unused : s.locks.Unused
  texts : ∀ var, Backend.stored s.backend var = (m.find? var).map Value.encode

/-- A call on a store does what it does with the values of a map. -/
structure Agrees (s : Store Memory) (m : Bindings) (c : Call) : Prop where
  reply : (s.call c).1 = (m.answer c).1
  kept : Represents (s.call c).2 (m.answer c).2
  readable : (s.call c).2.journal.decodeFailures = s.journal.decodeFailures
  failed : ∀ e, (s.call c).1 = .error e → (s.call c).2 = s

variable {s s' : Store Memory} {m m' : Bindings} {c : Call} {var : VarId} {scope : Scope}
  {lead : String}

lemma valueOf_map_encode (v : Option Value) : valueOf (v.map Value.encode) = v := by
  cases v with
  | none => rfl
  | some v =>
    rw [Option.map_some, valueOf, Option.bind_some, Value.decode_encode]
    rfl

lemma replyOf_map_encode (v : Option Value) : replyOf (v.map Value.encode) = .ok (.value v) := by
  cases v with
  | none => rfl
  | some v => rw [Option.map_some, replyOf, Value.decode_encode]

/-- The stored form of a value is not empty, so a variable is set when it has a value. -/
lemma any_ne_map_encode (v : Option Value) : (v.map Value.encode).any (· ≠ "") = v.isSome := by
  cases v with
  | none => rfl
  | some v =>
    have hne : v.encode ≠ "" := by
      intro hempty
      have hdecode := Value.decode_encode v
      rw [hempty] at hdecode
      cases hdecode
    simp [hne]

/-- What is found in a listing of texts is what is read from the texts of the keys that it is
about. -/
lemma get?_decoded (d : Dict String) (key : String) :
    (Dict.ofList ((d.entries.filter fun (key, _) => lead.toList.isPrefixOf key.toList).filterMap
      fun (key, raw) => (Value.decode raw).value?.map fun v => (key, v))).get? key =
    if lead.toList.isPrefixOf key.toList then valueOf (d.get? key) else none := by
  have hdistinct : ((d.entries.filter fun (key, _) =>
      lead.toList.isPrefixOf key.toList).filterMap fun (key, raw) =>
      (Value.decode raw).value?.map fun v => (key, v)).Pairwise (·.1 ≠ ·.1) := by
    apply (d.distinct.filter _).filterMap _
    intro e e' hne b hb b' hb'
    obtain ⟨v, -, rfl⟩ := Option.map_eq_some_iff.1 hb
    obtain ⟨v', -, rfl⟩ := Option.map_eq_some_iff.1 hb'
    exact hne
  rw [Dict.get?_ofList hdistinct]
  apply Option.ext
  intro v
  constructor
  · intro h
    obtain ⟨⟨k, raw⟩, hmem, hv⟩ := List.mem_filterMap.1 (mem_of_lookup h)
    obtain ⟨he, hlead⟩ := List.mem_filter.1 hmem
    obtain ⟨v', hdecode, heq⟩ := Option.map_eq_some_iff.1 hv
    cases heq
    rw [if_pos hlead, Dict.mem_entries_iff.1 he]
    exact hdecode
  · intro h
    obtain ⟨hlead, hvalue⟩ := Option.ite_none_right_eq_some.1 h
    obtain ⟨raw, hraw, hdecode⟩ := Option.bind_eq_some_iff.1 hvalue
    refine lookup_of_mem (List.pairwise_map.2 hdistinct) (List.mem_filterMap.2 ⟨(key, raw), ?_, ?_⟩)
    · exact List.mem_filter.2 ⟨Dict.mem_entries_iff.2 hraw, hlead⟩
    · exact Option.map_eq_some_iff.2 ⟨v, hdecode, rfl⟩

namespace Represents

lemma empty (journal : Journal) (limit : Option Nat) :
    Represents { backend := {}, journal, limit } .empty :=
  ⟨Locks.unused_empty, fun _ => rfl⟩

lemma congr (h : Represents s m) (hlocks : s'.locks = s.locks) (hbackend : s'.backend = s.backend) :
    Represents s' m :=
  ⟨hlocks ▸ h.unused, by rw [hbackend]; exact h.texts⟩

lemma readable (h : Represents s m) (var : VarId) : s.Readable var := by
  intro raw hget
  have htext : (m.find? var).map Value.encode = some raw :=
    (h.texts var).symm.trans (AtomicBackend.get_ok hget).symm
  obtain ⟨v, -, rfl⟩ := Option.map_eq_some_iff.1 htext
  rw [Value.decode_encode]
  exact nofun

/-- A write keeps a store and a map related. -/
lemma write (h : Represents s m) (hkey : var.key ≠ "") {value : Option Value}
    (hunused : s'.locks.Unused)
    (hbackend : s'.backend = s.written var value) : Represents s' (m.assign var hkey value) := by
  refine ⟨hunused, ?_⟩
  intro v
  rw [hbackend, stored_written_of_success (writeFailure?_memory s var value),
    Bindings.find?_assign, h.texts]
  split <;> rfl

/-- Every text of a scope is the stored form of a value. -/
lemma decode_ne (h : Represents s m) {e : String × String}
    (he : e ∈ (s.backend.map.inScope scope).entries) : Value.decode e.2 ≠ .undecodable :=
  h.readable ⟨scope, e.1⟩ e.2 (congrArg Except.ok (Dict.mem_entries_iff.1 he))

lemma list (h : Represents s m) : (s.list scope lead).1 = .ok (m.listing scope lead) := by
  have hentries : (Backend.entries scope s.backend).1 =
      .ok (s.backend.map.inScope scope).entries := rfl
  simp only [Store.list, ask_eq, hentries]
  refine congrArg _ (Dict.ext_get? ?_)
  intro key
  have htext : (s.backend.map.inScope scope).get? key =
      (m.find? ⟨scope, key⟩).map Value.encode := h.texts ⟨scope, key⟩
  rw [get?_decoded, Bindings.get?_listing, htext]
  split
  · exact valueOf_map_encode _
  · rfl

/-- A locked call answers by the value and writes what it decides. -/
lemma locked (h : Represents s m) (hkey : var.key ≠ "") (job : Job) :
    (s.locked var job).1 = .ok (job.decide (m.find? var)).answer ∧
      Represents (s.locked var job).2
        (m.assign var hkey (job.decide (m.find? var)).written) := by
  have halone := locked_alone hkey h.unused job
  have hfetch := fetch_of_success (readFailure?_memory s var)
  rw [h.texts, valueOf_map_encode] at hfetch
  obtain ⟨hreply, hbackend⟩ := halone.found _ hfetch
  have hsame : (s.fetch var).2.backend = s.backend := (moved_fetch s var).backend
  refine ⟨?_, h.write hkey halone.unused (hbackend.trans (write_congr hsame var _).2)⟩
  rw [hreply, commit_of_success (writeFailure?_memory _ var _)]

end Represents

lemma decide_increment (current : Option Value) (delta : Int) :
    ((Job.increment delta).decide current).written =
        some (.number (.ofInt (Bindings.total current delta))) ∧
      ((Job.increment delta).decide current).answer = .total (Bindings.total current delta) := by
  cases hbase : current.bind Value.integer? <;>
    simp only [Job.decide, Bindings.total, hbase, and_self]

namespace Agrees

/-- A call that fails on both sides. -/
lemma of_error (h : Represents s m) {e : StoreError} (hcall : s.call c = (.error e, s))
    (hanswer : m.answer c = (.error e, m)) : s.Agrees m c := by
  refine ⟨?_, ?_, ?_, ?_⟩
  · rw [hcall, hanswer]
  · rw [hcall, hanswer]
    exact h
  · rw [hcall]
  · intro _ _
    rw [hcall]

lemma of_emptyKey (h : Represents s m) (hvar : c.var? = some var) (hkey : var.key = "") :
    s.Agrees m c := by
  apply of_error h (s.call_of_emptyKey hvar hkey)
  cases c <;> cases hvar <;> exact dif_pos hkey

/-- A call that succeeds on both sides. -/
lemma of_ok {a : Answer} (hreply : (s.call c).1 = .ok a) (hanswer : m.answer c = (.ok a, m'))
    (hkept : Represents (s.call c).2 m')
    (hreadable : (s.call c).2.journal.decodeFailures = s.journal.decodeFailures) :
    s.Agrees m c := by
  refine ⟨?_, ?_, hreadable, ?_⟩
  · rw [hreply, hanswer]
  · rw [hanswer]
    exact hkept
  · intro e he
    rw [hreply] at he
    cases he

/-- A plain write. -/
lemma of_put (h : Represents s m) (hkey : var.key ≠ "") (value : Option Value)
    (hcall : s.call c = s.put var value)
    (hanswer : m.answer c = (.ok .done, m.assign var hkey value)) : s.Agrees m c := by
  have hmoved := moved_put s var value
  refine of_ok (a := .done) ?_ hanswer ?_ ?_
  · rw [hcall]
    cases value <;> rfl
  · rw [hcall]
    exact h.write hkey (hmoved.locks ▸ h.unused) hmoved.backend
  · rw [hcall]
    exact congrArg _ (journal_write s var value)

lemma of_locked (h : Represents s m) (hkey : var.key ≠ "") (job : Job)
    (hcall : s.call c = s.locked var job)
    (hanswer : m.answer c = (.ok (job.decide (m.find? var)).answer,
      m.assign var hkey (job.decide (m.find? var)).written)) : s.Agrees m c := by
  obtain ⟨hreply, hkept⟩ := h.locked hkey job
  refine of_ok ?_ hanswer ?_ ?_
  · rw [hcall, hreply]
  · rw [hcall]
    exact hkept
  · rw [hcall]
    exact decodeFailures_locked hkey h.unused (h.readable var) job

/-- A listing, in the form in which it is answered. -/
lemma of_list (h : Represents s m) (f : Dict Value → Answer)
    (hcall : s.call c = (s.list scope lead).map (·.map f) id)
    (hanswer : m.answer c = (.ok (f (m.listing scope lead)), m)) : s.Agrees m c := by
  have hmoved := moved_list s scope lead
  have hentries : (Backend.entries scope s.backend).1 =
      .ok (s.backend.map.inScope scope).entries := rfl
  have hjournal := journal_list lead hentries fun e he => h.decode_ne he
  refine of_ok ?_ hanswer ?_ ?_
  · rw [hcall, Prod.map_fst, h.list]
    rfl
  · rw [hcall]
    exact h.congr hmoved.locks hmoved.backend
  · rw [hcall]
    exact congrArg _ hjournal

end Agrees

lemma answer_of_key {f : var.key ≠ "" → Reply × Bindings} (hkey : var.key ≠ "") :
    m.withKey var f = f hkey := dif_neg hkey

/-- Every call does what it does with the values of the map. -/
lemma Represents.agrees (h : Represents s m) (c : Call) : s.Agrees m c := by
  cases c with
  | get var =>
    by_cases hkey : var.key = ""
    · exact .of_emptyKey h rfl hkey
    · have hmoved := moved_get s hkey
      refine .of_ok (a := .value (m.find? var)) ?_ (answer_of_key hkey)
        (h.congr hmoved.locks hmoved.backend) (congrArg _ (journal_get (h.readable var)))
      exact (get_of_success hkey (readFailure?_memory s var)).trans
        (by rw [h.texts, replyOf_map_encode])
  | set var v =>
    by_cases hkey : var.key = ""
    · exact .of_emptyKey h rfl hkey
    · exact .of_put h hkey v (if_neg hkey) (answer_of_key hkey)
  | setJson var j =>
    by_cases hkey : var.key = ""
    · exact .of_emptyKey h rfl hkey
    · cases j with
      | null => exact .of_put h hkey none (if_neg hkey) (answer_of_key hkey)
      | bool b =>
        exact .of_put h hkey (some (.boolean b)) (if_neg hkey) (answer_of_key hkey)
      | number n =>
        exact .of_put h hkey (some (.number n.toDouble)) (if_neg hkey) (answer_of_key hkey)
      | string s =>
        exact .of_put h hkey (some (.string s)) (if_neg hkey) (answer_of_key hkey)
      | array elements => exact .of_error h (if_neg hkey) (answer_of_key hkey)
      | object members => exact .of_error h (if_neg hkey) (answer_of_key hkey)
  | unset var =>
    by_cases hkey : var.key = ""
    · exact .of_emptyKey h rfl hkey
    · exact .of_put h hkey none (if_neg hkey) (answer_of_key hkey)
  | isSet var =>
    by_cases hkey : var.key = ""
    · exact .of_emptyKey h rfl hkey
    · have hcall : s.call (.isSet var) =
          (.ok (.flag ((Backend.stored s.backend var).any (· ≠ ""))), s) := if_neg hkey
      rw [h.texts, any_ne_map_encode] at hcall
      refine .of_ok ?_ (answer_of_key hkey) ?_ ?_
      · rw [hcall]
      · rw [hcall]
        exact h
      · rw [hcall]
  | increment var amount =>
    by_cases hkey : var.key = ""
    · exact .of_emptyKey h rfl hkey
    · obtain ⟨hwritten, hanswer⟩ := decide_increment (m.find? var) amount.delta
      refine .of_locked h hkey (.increment amount.delta) rfl ?_
      rw [hwritten, hanswer]
      exact answer_of_key hkey
  | update var f =>
    by_cases hkey : var.key = ""
    · exact .of_emptyKey h rfl hkey
    · exact .of_locked h hkey (.update f) rfl (answer_of_key hkey)
  | dump scope lead => exact .of_list h .listing rfl rfl
  | dumpJson scope lead =>
    have htext := Bindings.text_listingJson (m.listing scope lead)
    refine .of_list h (fun entries => .text (listingJson entries).text) rfl ?_
    rw [Bindings.answer, htext]

/-- A run of calls does what it does with the values of the map. -/
lemma Represents.calls (h : Represents s m) (cs : List Call) :
    (s.calls cs).1 = (m.answers cs).1 ∧ Represents (s.calls cs).2 (m.answers cs).2 ∧
      (s.calls cs).2.journal.decodeFailures = s.journal.decodeFailures := by
  induction cs generalizing s m with
  | nil => exact ⟨rfl, h, rfl⟩
  | cons c cs ih =>
    have hc := h.agrees c
    obtain ⟨hreplies, hkept, hreadable⟩ := ih hc.kept
    refine ⟨?_, hkept, hreadable.trans hc.readable⟩
    change (s.call c).1 :: ((s.call c).2.calls cs).1 =
      (m.answer c).1 :: ((m.answer c).2.answers cs).1
    rw [hc.reply, hreplies]

/-- A store does, in some calls, what is done with the values of a map that is empty at first. -/
structure Refined (start : Store Memory) (cs : List Call) : Prop where
  /-- The calls answer the same. -/
  replies : (start.calls cs).1 = (Bindings.empty.answers cs).1
  /-- What is stored are the stored forms of the values, and nothing else. -/
  texts : ∀ var, Backend.stored (start.calls cs).2.backend var =
    ((Bindings.empty.answers cs).2.find? var).map Value.encode
  /-- No call answers that a text cannot be decoded. -/
  errors : ∀ e, .error e ∈ (start.calls cs).1 → e = .emptyKey ∨ ∃ kind, e = .unsupportedKind kind
  /-- No text is met that cannot be decoded, and no listing skips one. -/
  decodable : (start.calls cs).2.journal.decodeFailures = start.journal.decodeFailures
  /-- A call that fails now changes nothing. -/
  failed : ∀ c e, ((start.calls cs).2.call c).1 = .error e →
    ((start.calls cs).2.call c).2 = (start.calls cs).2
  /-- To store no value is to remove the variable. -/
  removed : ∀ var, (start.calls cs).2.call (.set var none) = (start.calls cs).2.call (.unset var) ∧
    (start.calls cs).2.call (.setJson var .null) = (start.calls cs).2.call (.unset var)

/-- Whatever calls are made, a store over an empty backend in memory is a map of values. -/
theorem calls_refined (journal : Journal) (limit : Option Nat) (cs : List Call) :
    Refined { backend := {}, journal, limit } cs := by
  obtain ⟨hreplies, hkept, hreadable⟩ := (Represents.empty journal limit).calls cs
  refine ⟨hreplies, hkept.texts, ?_, hreadable,
    fun c e he => (hkept.agrees c).failed e he, fun var => ⟨rfl, rfl⟩⟩
  intro e he
  rw [hreplies] at he
  clear hreplies hkept hreadable
  generalize Bindings.empty = m at he
  induction cs generalizing m with
  | nil => cases he
  | cons c cs ih =>
    rcases List.mem_cons.1 he with hc | hcs
    · exact Bindings.error_of_answer hc.symm
    · exact ih _ hcs

end Store

end TypedVars
