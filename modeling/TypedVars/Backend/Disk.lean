/-!
# The place of a document

A document lives at one path.  What matters of the file system is what stands at that path, or why
nothing can: a file with its bytes, a directory, nothing, or no directory to put a file into.

A file can be there and still not be read, for want of a permission or because its device fails.
That is not a matter of what stands at the path, so a read is told of it.
-/

namespace TypedVars

/-- What stands at the path of a document. -/
inductive Disk where
  /-- The directory of the path does not exist. -/
  | noParent
  /-- A file stands where the directory of the path should be. -/
  | blockedParent
  /-- Nothing. -/
  | vacant
  /-- A file. -/
  | file (bytes : ByteArray)
  /-- A directory. -/
  | directory

namespace Disk

/-- Creates the directory of the path where that can be done. -/
def createParents : Disk → Disk
  | noParent => vacant
  | d => d

/-- The bytes of the file, if there is one and it can be read. -/
def read? (d : Disk) (readable : Bool := true) : Option ByteArray :=
  match d, readable with
  | file bytes, true => some bytes
  | _, _ => none

/-- Writes the whole file, if a file can be there. -/
def write? (bytes : ByteArray) : Disk → Option Disk
  | vacant | file _ => some (file bytes)
  | _ => none

/-! ### Changes from outside -/

/-- Someone else writes the file, and creates its directory where that can be done. -/
def overwrite (bytes : ByteArray) (d : Disk) : Disk := (d.createParents.write? bytes).getD d

/-- Someone else deletes the file. -/
def remove : Disk → Disk
  | file _ => vacant
  | d => d

/-- Someone else puts a directory in place of the file. -/
def block : Disk → Disk
  | file _ | vacant | noParent => directory
  | d => d

/-- Someone else takes the directory away. -/
def unblock : Disk → Disk
  | directory => vacant
  | d => d

/-- The text of the file, if it is one. -/
def text? (d : Disk) : Option String := d.read?.bind String.fromUTF8?

end Disk

end TypedVars
