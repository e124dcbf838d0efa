/-
**Loading settings.**

A settings file that is named must be there; the settings file of a directory is used if it
exists. A file that cannot be read, that is not UTF-8, or whose document is refused, is a failure
that names the path.
-/

import ExportManifest.FileTree.Walk
import ExportManifest.Settings.Basic

namespace ExportManifest

/-- The settings in what reading a file gave. -/
def Settings.ofContent (path : Text) (content : Except FileFault (List UInt8)) :
    Except Failure Settings :=
  match content with
  | .error fault => .error (.unusableSettings path (.unreadable fault))
  | .ok bytes =>
    match Utf8.decode? bytes with
    | none => .error (.unusableSettings path (.unreadable .notUtf8))
    | some document => Settings.parse path document

/-- The path of the settings file of a directory. -/
def Settings.pathIn (directory : Text) : Text :=
  Path.join directory Settings.fileName

namespace FileTree

/-- The settings in a file, which must exist. -/
def loadSettings (tree : FileTree) (path : Text) : Except Failure Settings :=
  Settings.ofContent path (tree.read path)

/-- The settings in the settings file of a directory, if it has one. -/
def settingsIn (tree : FileTree) (directory : Text) : Except Failure (Option Settings) :=
  let path := Settings.pathIn directory
  if tree.holds path then (tree.loadSettings path).map some else .ok none

end FileTree

end ExportManifest
