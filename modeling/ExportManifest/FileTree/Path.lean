/-
**Paths.**

A path is a text of names with slashes between them. Repeated slashes count once, `.` and `..` are
names with a meaning, a slash at the front starts at the root, and a slash at the end asks for a
directory. The file name of a path is its last name after all `.` are dropped; a path that ends in
`..` or has no name left has none.
-/

import ExportManifest.FileTree.Basic

namespace ExportManifest

/-- A path: whether it starts at the root, its names, and whether it ends in a slash. -/
structure Path where
  absolute : Bool
  names : List Text
  slashed : Bool
deriving DecidableEq, Repr

namespace Path

/-- The name of the directory itself. -/
def here : Text := ['.']

/-- The name of the directory above. -/
def above : Text := ['.', '.']

/-- A path from its text. -/
def ofText (text : Text) : Path :=
  { absolute := text.head? == some '/'
    names := (text.pieces '/').filter fun name => !name.isEmpty
    slashed := text.getLast? == some '/' }

/-- The names to go through: a slash at the end is as good as one more `.`. -/
def steps (path : Path) : List Text :=
  if path.slashed then path.names ++ [here] else path.names

/-- The location in which the path starts. -/
def start (path : Path) (workDirectory : Location) : Location :=
  if path.absolute then [] else workDirectory

/-- The names without `.`. -/
def properNames (path : Path) : List Text :=
  path.names.filter fun name => name ≠ here

/-- The last name, if it names an entry. -/
def fileName? (path : Path) : Option Text :=
  match path.properNames.getLast? with
  | some name => if name = above then none else some name
  | none => none

/-- The text of the directory that the file name stands in. -/
def directory (path : Path) : Text :=
  let names := path.properNames.dropLast
  if path.absolute then '/' :: ['/'].intercalate names
  else if names.isEmpty then here
  else ['/'].intercalate names

/-- A name below a directory given as text. -/
def join (directory name : Text) : Text :=
  if directory.isEmpty || directory.getLast? == some '/' then directory ++ name
  else directory ++ ['/'] ++ name

end Path

end ExportManifest
