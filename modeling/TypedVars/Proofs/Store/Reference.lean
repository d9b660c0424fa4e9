import TypedVars.Proofs.Backend.Dict
import TypedVars.Store.Call

/-!
# A map of values

What a store is meant to be is a finite map from variables to values (`Bindings`): a variable that
is there has a key, and no text is kept of its value.  `Bindings.answer` says what each call
answers by such a map and what it makes of the map.  Nothing here knows of stored texts, tags, locks
or a backend, and the text of a listing is put together from its entries (`Bindings.listingText`),
without a JSON value in between.
-/

namespace TypedVars

/-- The values of finitely many variables. -/
structure Bindings where
  entries : List (VarId × Value)
  distinct : entries.Pairwise (·.1 ≠ ·.1)
  keyed : ∀ e ∈ entries, e.1.key ≠ ""

namespace Bindings

/-- No variable has a value. -/
def empty : Bindings := ⟨[], .nil, fun _ he => nomatch he⟩

/-- The value of a variable. -/
def find? (m : Bindings) (var : VarId) : Option Value := m.entries.lookup var

/-- Takes a variable out. -/
def erase (m : Bindings) (var : VarId) : Bindings where
  entries := m.entries.filter (·.1 ≠ var)
  distinct := m.distinct.filter _
  keyed e he := m.keyed e (List.mem_filter.1 he).1

/-- Gives a variable a value, in place of the one that it has. -/
def put (m : Bindings) (var : VarId) (hkey : var.key ≠ "") (v : Value) : Bindings where
  entries := (var, v) :: (m.erase var).entries
  distinct := by
    refine List.pairwise_cons.2 ⟨?_, (m.erase var).distinct⟩
    intro e he
    have hne := (List.mem_filter.1 he).2
    exact (of_decide_eq_true hne).symm
  keyed e he := by
    rcases List.mem_cons.1 he with rfl | he
    · exact hkey
    · exact (m.erase var).keyed e he

/-- Gives a variable a value, or takes it out when there is none. -/
def assign (m : Bindings) (var : VarId) (hkey : var.key ≠ "") : Option Value → Bindings
  | some v => m.put var hkey v
  | none => m.erase var

/-- The key and the value of a variable, if it is in a scope and its key begins with a text. -/
def listed? (scope : Scope) (lead : String) (e : VarId × Value) : Option (String × Value) :=
  if e.1.scope = scope ∧ lead.toList.isPrefixOf e.1.key.toList then some (e.1.key, e.2) else none

/-- The values of a scope whose keys begin with a text. -/
def listing (m : Bindings) (scope : Scope) (lead : String) : Dict Value :=
  .ofList (m.entries.filterMap (listed? scope lead))

/-! ## The text of a listing -/

/-- The characters that have a letter to escape them, and the letters. -/
def escapeLetters : List (Char × Char) :=
  [('"', '"'), ('\\', '\\'), ('\x08', 'b'), ('\x0c', 'f'), ('\n', 'n'), ('\r', 'r'), ('\t', 't')]

/-- A character between quotes.  A control without a letter is escaped by its number. -/
def escaped (c : Char) : String :=
  match escapeLetters.lookup c with
  | some letter => "\\" ++ String.singleton letter
  | none =>
    if c.toNat < 0x20 then
      "\\u00" ++ (if c.toNat < 0x10 then "0" else "1") ++
        String.singleton (Nat.digitChar (c.toNat % 0x10))
    else String.singleton c

/-- A text between quotes. -/
def quoted (s : String) : String := "\"" ++ String.join (s.toList.map escaped) ++ "\""

/-- A value as it is shown, without a tag.  A number that is not finite has no digits to show. -/
def shown : Value → String
  | .number x => x.jsonText?.getD "null"
  | .string s => quoted s
  | .boolean b => if b then "true" else "false"

/-- An entry of a listing as it is shown. -/
def member (e : String × Value) : String := quoted e.1 ++ ":" ++ shown e.2

/-- A listing as it is shown: its entries in order, between braces. -/
def listingText (d : Dict Value) : String :=
  "\x7b" ++ ",".intercalate (d.entries.map member) ++ "\x7d"

/-! ## What calls answer -/

/-- The integer that an increment gets to: a value without an integer is replaced by the amount. -/
def total (current : Option Value) (delta : Int) : Int :=
  match current.bind Value.integer? with
  | some base => clamp (base + delta)
  | none => delta

/-- The value that a JSON scalar stands for, where `null` stands for none; the kind of any other. -/
def scalar : Json → Except String (Option Value)
  | .null => .ok none
  | .bool b => .ok (some (.boolean b))
  | .number n => .ok (some (.number n.toDouble))
  | .string s => .ok (some (.string s))
  | j => .error j.kind

/-- What is done with a variable that has a key. -/
def withKey (m : Bindings) (var : VarId) (f : var.key ≠ "" → Reply × Bindings) :
    Reply × Bindings :=
  if h : var.key = "" then (.error .emptyKey, m) else f h

/-- What a call answers, and what it makes of the values. -/
def answer (m : Bindings) : Call → Reply × Bindings
  | .get var => m.withKey var fun _ => (.ok (.value (m.find? var)), m)
  | .set var v => m.withKey var fun h => (.ok .done, m.assign var h v)
  | .setJson var j => m.withKey var fun h =>
    match scalar j with
    | .ok v => (.ok .done, m.assign var h v)
    | .error kind => (.error (.unsupportedKind kind), m)
  | .unset var => m.withKey var fun _ => (.ok .done, m.erase var)
  | .isSet var => m.withKey var fun _ => (.ok (.flag (m.find? var).isSome), m)
  | .increment var amount => m.withKey var fun h =>
    let n := total (m.find? var) amount.delta
    (.ok (.total n), m.put var h (.number (.ofInt n)))
  | .update var f => m.withKey var fun h =>
    (.ok (.replaced (m.find? var) (f (m.find? var))), m.assign var h (f (m.find? var)))
  | .dump scope lead => (.ok (.listing (m.listing scope lead)), m)
  | .dumpJson scope lead => (.ok (.text (listingText (m.listing scope lead))), m)

/-- What some calls answer, one after another. -/
def answers (m : Bindings) : List Call → List Reply × Bindings
  | [] => ([], m)
  | c :: rest =>
    let (r, m) := m.answer c
    let (rs, m) := m.answers rest
    (r :: rs, m)

/-! ## What is found after each operation -/

variable {m : Bindings} {var v : VarId} {hkey : var.key ≠ ""} {scope : Scope} {lead key : String}

lemma find?_erase : (m.erase var).find? v = if v = var then none else m.find? v := by
  by_cases hv : v = var
  · rw [if_pos hv, hv]
    exact lookup_filter_self var m.entries
  · rw [if_neg hv]
    exact lookup_filter_of_ne hv m.entries

lemma find?_assign (value : Option Value) :
    (m.assign var hkey value).find? v = if v = var then value else m.find? v := by
  cases value with
  | none => exact find?_erase
  | some value =>
    by_cases hv : v = var
    · rw [if_pos hv, hv]
      exact List.lookup_cons_self
    · have hrest : (m.erase var).entries.lookup v = m.find? v := find?_erase.trans (if_neg hv)
      rw [if_neg hv, assign, find?, put, List.lookup_cons, beq_false_of_ne hv, hrest]

lemma of_listed? {e : VarId × Value} {b : String × Value} (h : listed? scope lead e = some b) :
    e = (⟨scope, b.1⟩, b.2) := by
  obtain ⟨⟨s, k⟩, v⟩ := e
  obtain ⟨⟨hscope, -⟩, hb⟩ := Option.ite_none_right_eq_some.1 h
  cases hb
  cases hscope
  rfl

/-- A listing has the values of the keys that it is about. -/
lemma get?_listing : (m.listing scope lead).get? key =
    if lead.toList.isPrefixOf key.toList then m.find? ⟨scope, key⟩ else none := by
  have hdistinct : (m.entries.filterMap (listed? scope lead)).Pairwise (·.1 ≠ ·.1) := by
    refine m.distinct.filterMap _ fun e e' hne b hb b' hb' heq => hne ?_
    rw [of_listed? hb, of_listed? hb', heq]
  rw [listing, Dict.get?_ofList hdistinct, find?]
  clear hdistinct
  generalize m.entries = es
  induction es with
  | nil => simp
  | cons e es ih =>
    by_cases hhere : (⟨scope, key⟩ : VarId) = e.1
    · by_cases hlead : lead.toList.isPrefixOf key.toList = true
      · have hlisted : listed? scope lead e = some (key, e.2) := by
          rw [listed?, ← hhere, if_pos ⟨rfl, hlead⟩]
        rw [List.filterMap_cons_some hlisted, List.lookup_cons_self, if_pos hlead,
          List.lookup_cons, hhere, beq_self_eq_true]
      · have hlisted : listed? scope lead e = none := by
          rw [listed?, ← hhere, if_neg fun h => hlead h.2]
        rw [List.filterMap_cons_none hlisted, ih, if_neg hlead, if_neg hlead]
    · rw [List.lookup_cons, beq_false_of_ne hhere, ← ih]
      cases hlisted : listed? scope lead e with
      | none => rw [List.filterMap_cons_none hlisted]
      | some b =>
        have hne : key ≠ b.1 := fun h => hhere (by rw [of_listed? hlisted, h])
        rw [List.filterMap_cons_some hlisted, List.lookup_cons, beq_false_of_ne hne]

/-! ## What calls cannot do -/

lemma error_of_withKey {f : var.key ≠ "" → Reply × Bindings} {e : StoreError}
    (h : (m.withKey var f).1 = .error e) :
    e = .emptyKey ∨ ∃ hkey, (f hkey).1 = .error e := by
  unfold withKey at h
  split at h
  · cases h
    exact .inl rfl
  · next hkey => exact .inr ⟨hkey, h⟩

/-- Only a missing key and a JSON array or object are refused. -/
lemma error_of_answer {c : Call} {e : StoreError} (h : (m.answer c).1 = .error e) :
    e = .emptyKey ∨ ∃ kind, e = .unsupportedKind kind := by
  cases c with
  | dump scope lead | dumpJson scope lead => cases h
  | setJson var j =>
    rw [answer] at h
    rcases error_of_withKey h with hempty | ⟨hkey, hj⟩
    · exact .inl hempty
    · split at hj
      · cases hj
      · cases hj
        exact .inr ⟨_, rfl⟩
  | get var | set var v | unset var | isSet var | increment var amount | update var f =>
    rw [answer] at h
    rcases error_of_withKey h with hempty | ⟨hkey, hok⟩
    · exact .inl hempty
    · cases hok

end Bindings

end TypedVars
