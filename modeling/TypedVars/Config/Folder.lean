import TypedVars.Text.Encoded
import TypedVars.Text.Pieces

/-!
# Files by path

The files of a working directory, each with its bytes.  A path leads through directories, step by
step, to a file; nothing outside of the working directory is known.

A place in the working directory is given by the names of the directories on the way to it, so that
each place has one such list, while many paths may lead to it.
-/

namespace TypedVars

/-- The directories below the working directory, and the files with their bytes. -/
structure Folder where
  directories : List (List String) := []
  files : List (List String × ByteArray) := []

namespace Folder

/-- The steps of a path. -/
def steps (path : String) : List String := (pieces '/' path.toList).map String.ofList

/-- The longest path in bytes; a longer one is not followed. -/
def longestPath : Nat := 4095

/-- Where a step leads to from a directory. -/
def after? (place : List String) (step : String) : Option (List String) :=
  if step = "" ∨ step = "." then some place
  else if step = ".." then if place.isEmpty then none else some place.dropLast
  else some (place ++ [step])

/-- Whether there is a directory at a place. -/
def isDirectory (f : Folder) (place : List String) : Bool :=
  place.isEmpty || f.directories.contains place

/-- Where a path leads to from a place. -/
def walk? (f : Folder) (place : List String) : List String → Option (List String)
  | [] => some place
  | step :: rest =>
    if f.isDirectory place then (after? place step).bind fun next => walk? f next rest else none

/-- The bytes of the file at a path. -/
def read? (f : Folder) (path : String) : Option ByteArray :=
  match steps path with
  | "" :: _ => none
  | first =>
    if longestPath < encodedLength path.toList then none
    else (f.walk? [] first).bind fun place => List.lookup place f.files

/-! ### Filling a folder -/

/-- Creates the directories of a path from a place on, and tells where it leads to. -/
def makeWay (f : Folder) (place : List String) : List String → Option (Folder × List String)
  | [] => some (f, place)
  | step :: rest =>
    (after? place step).bind fun next =>
      makeWay { f with directories := next :: f.directories } next rest

/-- Writes a file together with its directories; a path that leaves the folder changes nothing. -/
def write (f : Folder) (path : String) (bytes : ByteArray) : Folder :=
  match steps path with
  | "" :: _ => f
  | first =>
    match f.makeWay [] first.dropLast with
    | some (f, place) =>
      { f with files := (place ++ first.drop (first.length - 1), bytes) :: f.files }
    | none => f

/-- The folder of some files, written one after another. -/
def ofFiles (files : List (String × ByteArray)) : Folder :=
  files.foldl (fun f (path, bytes) => f.write path bytes) {}

end Folder

end TypedVars
