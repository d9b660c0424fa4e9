import TypedVars.Backend.Document
import TypedVars.Backend.Host
import TypedVars.Backend.Memory

/-!
# Any backend

A store can be put over each of the backends; this type is their sum, and a call goes to the one
that is there.  A document may be opened in place of any backend, so what stands at its path goes
along with those that have none.
-/

namespace TypedVars

/-- One of the backends. -/
inductive Storage where
  | memory (b : Memory) (disk : Disk)
  | host (b : Host) (disk : Disk)
  | document (b : Document)

namespace Storage

/-- What stands at the path of the document. -/
def disk : Storage → Disk
  | memory _ disk | host _ disk => disk
  | document b => b.disk

/-- Something happens to the path of the document from outside. -/
def changeDisk (f : Disk → Disk) : Storage → Storage
  | memory b disk => memory b (f disk)
  | host b disk => host b (f disk)
  | document b => document { b with disk := f b.disk }

instance : Backend Storage where
  get var
    | memory b disk => (Backend.get var b).map id (memory · disk)
    | host b disk => (Backend.get var b).map id (host · disk)
    | document b => (Backend.get var b).map id document
  set var raw
    | memory b disk => (Backend.set var raw b).map id (memory · disk)
    | host b disk => (Backend.set var raw b).map id (host · disk)
    | document b => (Backend.set var raw b).map id document
  unset var
    | memory b disk => (Backend.unset var b).map id (memory · disk)
    | host b disk => (Backend.unset var b).map id (host · disk)
    | document b => (Backend.unset var b).map id document
  entries scope
    | memory b disk => (Backend.entries scope b).map id (memory · disk)
    | host b disk => (Backend.entries scope b).map id (host · disk)
    | document b => (Backend.entries scope b).map id document
  stored
    | memory b _ => Backend.stored b
    | host b _ => Backend.stored b
    | document b => Backend.stored b

end Storage

end TypedVars
