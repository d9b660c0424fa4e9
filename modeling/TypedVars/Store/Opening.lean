import TypedVars.Backend.Storage
import TypedVars.Config.Basic
import TypedVars.Store.Basic

/-!
# Opening a store

A store over a document is opened together with it.  A configured store is one over memory or over
the document of its path, with the time limit of the configuration.
-/

namespace TypedVars

namespace Store

/-- A store over memory. -/
def inMemory (disk : Disk) (limit : Option Nat) : Store Storage :=
  { backend := .memory {} disk, limit }

/-- A store over a host's storage. -/
def onHost (disk : Disk) (limit : Option Nat) : Store Storage :=
  { backend := .host {} disk, limit }

/-- A store over the document of a path, going on with a journal. -/
def onDocument (disk : Disk) (limit : Option Nat) (journal : Journal) (readable : Bool := true) :
    Except StoreError (Store Storage) :=
  (Document.openOn disk readable).map fun d =>
    { backend := .document d, limit, journal := journal.emit (.opened d.map.scopes.size) }

/-- The store of a configuration. -/
def ofConfig (config : StoreConfig) (disk : Disk) (readable : Bool := true) :
    Except StoreError (Store Storage) := do
  let s ←
    match config.backend with
    | .memory => pure (inMemory disk config.limit?)
    | .file => onDocument disk config.limit? {} readable
  pure (s.note (·.emit (.ready config.backend config.lockTimeoutMs)))

/-- Something happens to the path of the document from outside. -/
def changeDisk (s : Store Storage) (f : Disk → Disk) : Store Storage :=
  { s with backend := s.backend.changeDisk f }

/-- Opens the document in place of the store's backend, whatever that is; when that fails the
backend stays. -/
def reopen (s : Store Storage) (readable : Bool := true) :
    Except StoreError Unit × Store Storage :=
  match onDocument s.backend.disk s.limit s.journal readable with
  | .ok again => (.ok (), again)
  | .error e => (.error e, s.changeDisk fun disk => (Document.readOrCreate disk readable).2)

/-- From now on a host's storage refuses a call, or none. -/
def refuseCalls (s : Store Storage) (fault : Option Fault) : Store Storage :=
  match s.backend with
  | .host h disk => { s with backend := .host { h with fault } disk }
  | _ => s

end Store

end TypedVars
