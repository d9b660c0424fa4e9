import TypedVars.Backend.Basic
import TypedVars.Backend.Disk
import TypedVars.Backend.RawMap
import TypedVars.Json.Reader
import TypedVars.Json.Writer

/-!
# The backend of a document

All texts are in memory and in one JSON document.  A change writes the whole document first and is
committed to memory only when that succeeds, so a failed write changes nothing, and the next write
that succeeds brings the document up to date with everything committed before it, whatever happened
to the file in between.

Opening creates a missing document and leaves the bytes of one that it can read as they are.  It does
not ask why a read fails: a file that is there and cannot be read is taken for a missing one, and an
empty document is written over it.
-/

namespace TypedVars

/-- A backend that keeps its texts in a document. -/
structure Document where
  map : RawMap
  disk : Disk

namespace Document

/-- The bytes of the document of a map. -/
def bytesOf (m : RawMap) : ByteArray := m.toJson.text.toUTF8

/-- The map that the bytes of a document hold; an empty file holds none. -/
def mapOf? (bytes : ByteArray) : Option RawMap :=
  if bytes.isEmpty then some .empty
  else do
    let text ← String.fromUTF8? bytes
    let j ← Json.parse? text.toList
    RawMap.ofJson? j

/-- Reads the map of the document, or creates the document where there is nothing that could be read.
Whether or not that succeeds, something stands at the path afterwards. -/
def readOrCreate (disk : Disk) (readable : Bool := true) : Except StoreError RawMap × Disk :=
  let disk := disk.createParents
  match disk.read? readable with
  | some bytes =>
    match mapOf? bytes with
    | some map => (.ok map, disk)
    | none => (.error (.backend none), disk)
  | none =>
    match disk.write? (bytesOf .empty) with
    | some disk => (.ok .empty, disk)
    | none => (.error (.backend none), disk)

/-- Opens the document, or creates it. -/
def openOn (disk : Disk) (readable : Bool := true) : Except StoreError Document :=
  match readOrCreate disk readable with
  | (.ok map, disk) => .ok ⟨map, disk⟩
  | (.error e, _) => .error e

/-- Writes the document of a map and then commits the map. -/
def save (b : Document) (next : RawMap) : Except StoreError Unit × Document :=
  match b.disk.write? (bytesOf next) with
  | some disk => (.ok (), ⟨next, disk⟩)
  | none => (.error (.backend none), b)

instance : Backend Document where
  get var b := (.ok (b.map.get? var), b)
  set var raw b := b.save (b.map.set var raw)
  unset var b :=
    if (b.map.get? var).isSome then b.save (b.map.unset var) else (.ok (), b)
  entries scope b := (.ok (b.map.inScope scope).entries, b)
  stored b var := b.map.get? var

end Document

end TypedVars
