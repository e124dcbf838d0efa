/-
**Following a path through a file tree.**

A walk goes through the names of a path from a location. Every name is looked up in a directory;
`.` stays, `..` goes up, and a symbolic link is replaced by the names it holds, followed by those
still to come. A walk follows at most `linkLimit` links. What happens at the last name is chosen
by the purpose of the walk (`Ending`).

`FileTree.read` and `FileTree.holds` are the two questions a run asks of a path.
-/

import ExportManifest.FileTree.Path

namespace ExportManifest

/-- What a walk does at the last name of its path. -/
inductive Ending
  /-- It must be there, and a link is followed. -/
  | existing
  /-- It may be missing, and a link is followed. -/
  | possiblyNew
  /-- It may be missing, and a link is not followed. -/
  | unfollowed
deriving DecidableEq, Repr

namespace FileTree

/-- The most bytes a name may have. -/
def nameLimit : Nat := 255

/-- Paths have fewer bytes than this. -/
def pathLimit : Nat := 4096

/-- The most links a walk follows. -/
def linkLimit : Nat := 40

/-- Walks through names from a location. A link is left to `follow`, which is given the location
to go on from and all names still to go through. -/
def walkWith (follow : Location → List Text → Except SystemError Location) (tree : FileTree)
    (ending : Ending) : Location → List Text → Except SystemError Location
  | here, [] => .ok here
  | here, name :: rest =>
    if !tree.isDirectory here then .error .notDirectory
    else if name = Path.here then walkWith follow tree ending here rest
    else if name = Path.above then walkWith follow tree ending here.dropLast rest
    else if nameLimit < Utf8.size name then .error .nameTooLong
    else
      match tree.find? (here ++ [name]) with
      | none =>
        if rest.isEmpty && ending != .existing then .ok (here ++ [name]) else .error .noEntry
      | some (.link target) =>
        if rest.isEmpty && ending == .unfollowed then .ok (here ++ [name])
        else
          let path := Path.ofText target
          follow (path.start here) (path.steps ++ rest)
      | some _ => walkWith follow tree ending (here ++ [name]) rest

/-- Walks through names from a location, following no more than the given number of links. -/
def walk (tree : FileTree) (ending : Ending) :
    Nat → Location → List Text → Except SystemError Location
  | 0 => walkWith (fun _ _ => .error .linkLoop) tree ending
  | links + 1 => walkWith (walk tree ending links) tree ending

/-- What is wrong with the text of a path, before any name of it is looked up. -/
def pathFault? (path : Text) : Option FileFault :=
  if path.contains '\x00' then some .zeroInPath
  else if path.isEmpty then some (.system .noEntry)
  else if pathLimit ≤ Utf8.size path then some (.system .nameTooLong)
  else none

/-- The location that a path leads to. -/
def locate (tree : FileTree) (ending : Ending) (path : Text) : Except FileFault Location :=
  match pathFault? path with
  | some fault => .error fault
  | none =>
    let path := Path.ofText path
    match tree.walk ending linkLimit (path.start tree.workDirectory) path.steps with
    | .ok location => .ok location
    | .error error => .error (.system error)

/-- Whether a path leads to an entry. -/
def holds (tree : FileTree) (path : Text) : Bool :=
  match tree.locate .existing path with
  | .ok _ => true
  | .error _ => false

/-- The bytes of the file that a path leads to. -/
def read (tree : FileTree) (path : Text) : Except FileFault (List UInt8) :=
  match tree.locate .existing path with
  | .error fault => .error fault
  | .ok location =>
    match tree.find? location with
    | some (.file bytes) => .ok bytes
    | some .directory => .error (.system .isDirectory)
    | _ => .error (.system .noEntry)

end FileTree

end ExportManifest
