import TypedVars.Backend.Dict
import TypedVars.Journal
import TypedVars.Lock.Table
import TypedVars.Json.Writer
import TypedVars.Value.Json

/-!
# The store

A store gives typed access to a backend of texts.  This module holds its state, the answers that it
gives, and the calls that need no lock because they make one call to the backend at most.

A text that cannot be decoded is a failure for one who reads it, and is left out of a listing; both
count it and report it.
-/

namespace TypedVars

/-- A store over a backend. -/
structure Store (β : Type) where
  backend : β
  locks : Locks := {}
  journal : Journal := {}
  /-- The longest wait for a lock in milliseconds, if there is a bound. -/
  limit : Option Nat := some 5000

/-- What a call answers when it succeeds. -/
inductive Answer where
  | done
  | value (v : Option Value)
  | flag (b : Bool)
  /-- The value after an increment. -/
  | total (n : Int)
  /-- The value that an update found, and the one that it left. -/
  | replaced (seen written : Option Value)
  | listing (entries : Dict Value)
  | text (s : String)
  deriving DecidableEq

/-- What a call answers. -/
abbrev Reply := Except StoreError Answer

namespace Store

variable {α β : Type}

/-- Makes a call to the backend. -/
def ask (s : Store β) (call : β → Except StoreError α × β) : Except StoreError α × Store β :=
  let (r, backend) := call s.backend
  (r, { s with backend })

/-- Counts and reports. -/
def note (s : Store β) (f : Journal → Journal) : Store β := { s with journal := f s.journal }

variable [Backend β]

/-- Stores a value, or removes the variable when there is none. -/
def write (s : Store β) (var : VarId) : Option Value → Except StoreError Unit × Store β
  | some v => s.ask (Backend.set var v.encode)
  | none => s.ask (Backend.unset var)

/-- Stores a value or removes the variable, as a call. -/
def put (s : Store β) (var : VarId) (v : Option Value) : Reply × Store β :=
  (s.write var v).map (·.map fun _ => .done) id

/-- Reads a value. -/
def get (s : Store β) (var : VarId) : Reply × Store β :=
  if var.key = "" then (.error .emptyKey, s)
  else
    match s.ask (Backend.get var) with
    | (.error e, s) => (.error e, s)
    | (.ok none, s) => (.ok (.value none), s)
    | (.ok (some raw), s) =>
      match Value.decode raw with
      | .absent => (.ok (.value none), s)
      | .value v => (.ok (.value (some v)), s)
      | .undecodable =>
        (.error (.undecodable raw), s.note fun j => j.countDecodeError.emit (.undecodable var raw))

/-- Stores a value, or removes the variable when there is none. -/
def set (s : Store β) (var : VarId) (v : Option Value) : Reply × Store β :=
  if var.key = "" then (.error .emptyKey, s) else s.put var v

/-- Stores the value of a JSON scalar; `null` removes the variable. -/
def setJson (s : Store β) (var : VarId) (j : Json) : Reply × Store β :=
  if var.key = "" then (.error .emptyKey, s)
  else
    match j with
    | .null => s.put var none
    | j =>
      match Value.ofJson j with
      | .ok v => s.put var (some v)
      | .error e => (.error e, s)

/-- Removes a variable; one that is not there is no failure. -/
def unset (s : Store β) (var : VarId) : Reply × Store β :=
  if var.key = "" then (.error .emptyKey, s) else s.put var none

/-- Whether anything is stored under a variable, decodable or not. -/
def isSet (s : Store β) (var : VarId) : Reply × Store β :=
  if var.key = "" then (.error .emptyKey, s)
  else
    match s.ask (Backend.get var) with
    | (.error e, s) => (.error e, s)
    | (.ok raw, s) => (.ok (.flag (raw.any (· ≠ ""))), s)

/-- Counts and reports the entries that a listing leaves out. -/
def noteSkipped (scope : Scope) (j : Journal) : List (String × String) → Journal
  | [] => j
  | (key, raw) :: rest =>
    match Value.decode raw with
    | .undecodable =>
      noteSkipped scope (j.countDecodeError.emit (.skipped ⟨scope, key⟩ raw)) rest
    | _ => noteSkipped scope j rest

/-- The values of a scope whose keys begin with a text, in the order of the keys. -/
def list (s : Store β) (scope : Scope) (lead : String) :
    Except StoreError (Dict Value) × Store β :=
  match s.ask (Backend.entries scope) with
  | (.error e, s) => (.error e, s)
  | (.ok entries, s) =>
    let chosen := entries.filter fun (key, _) => lead.toList.isPrefixOf key.toList
    (.ok (.ofList (chosen.filterMap fun (key, raw) =>
      (Value.decode raw).value?.map fun v => (key, v))),
      s.note (noteSkipped scope · chosen))

/-- Lists the values of a scope whose keys begin with a text. -/
def dump (s : Store β) (scope : Scope) (lead : String) : Reply × Store β :=
  (s.list scope lead).map (·.map .listing) id

/-- The JSON object of a listing. -/
def listingJson (entries : Dict Value) : Json :=
  .object (entries.entries.map fun (key, v) => (key, v.toJson))

/-- Lists the values of a scope whose keys begin with a text, as the text of a JSON object. -/
def dumpJson (s : Store β) (scope : Scope) (lead : String) : Reply × Store β :=
  (s.list scope lead).map (·.map fun entries => .text (listingJson entries).text) id

end Store

end TypedVars
