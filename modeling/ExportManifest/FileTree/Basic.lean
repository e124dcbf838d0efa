/-
**File trees.**

A file tree is what a run sees of the file system: the entries at their locations, and the
directory in which relative paths start. A location is the list of names from the root down. The
root is always a directory. An entry is replaced in its place and a new one comes last, so taking
away an entry that was just added gives back the very same tree.
-/

import ExportManifest.FileFault
import ExportManifest.Text.Utf8

namespace ExportManifest

/-- A place in a file tree: the names from the root down. -/
abbrev Location := List Text

/-- What stands at a location. -/
inductive Entry
  | file (bytes : List UInt8)
  | directory
  /-- A symbolic link to the path it holds. -/
  | link (target : Text)
deriving DecidableEq, Repr

/-- The entries of a file system, and the directory in which relative paths start. -/
structure FileTree where
  entries : List (Location × Entry)
  workDirectory : Location
deriving DecidableEq, Repr

namespace FileTree

/-- The entry at a location. -/
def find? (tree : FileTree) (location : Location) : Option Entry :=
  if location.isEmpty then some .directory else tree.entries.lookup location

/-- Whether a directory stands at a location. -/
def isDirectory (tree : FileTree) (location : Location) : Bool :=
  match tree.find? location with
  | some .directory => true
  | _ => false

/-- The entries with the one at a location set. -/
def setEntry (location : Location) (entry : Entry) :
    List (Location × Entry) → List (Location × Entry)
  | [] => [(location, entry)]
  | first :: later =>
    if first.1 = location then (location, entry) :: later
    else first :: setEntry location entry later

/-- The tree with the entry at a location set. -/
def put (tree : FileTree) (location : Location) (entry : Entry) : FileTree :=
  { tree with entries := setEntry location entry tree.entries }

/-- The tree without the entry at a location. -/
def erase (tree : FileTree) (location : Location) : FileTree :=
  { tree with entries := tree.entries.filter fun entry => entry.1 ≠ location }

end FileTree

end ExportManifest
