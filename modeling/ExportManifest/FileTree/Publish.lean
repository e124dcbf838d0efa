/-
**Putting a finished file in its place.**

A file is published in four steps: a temporary file is created beside the output, filled, and
renamed over the output; when a step after the first fails, the temporary file is removed. So the
output's entry is at every moment the old one or the complete new one, and a failure leaves
nothing behind. Renaming replaces the output's own entry: a symbolic link there is replaced, not
followed.

The order of the steps, and what follows the refusal of one, is `Storage.publish`, over any place
that keeps files: the tree here, or the files of the machine. On the tree the steps are operations
of their own, since several publications may interleave.
-/

import ExportManifest.FileTree.Walk

namespace ExportManifest

namespace FileTree

/-! ### Steps -/

/-- Creates an empty file at a path, or empties the file there, and gives its location. -/
def create (tree : FileTree) (path : Text) : Except FileFault (Location × FileTree) :=
  match tree.locate .possiblyNew path with
  | .error fault => .error fault
  | .ok location =>
    if tree.isDirectory location then .error (.system .isDirectory)
    else .ok (location, tree.put location (.file []))

/-- Adds bytes at the end of the file at a location. -/
def append (tree : FileTree) (location : Location) (bytes : List UInt8) : FileTree :=
  match tree.find? location with
  | some (.file before) => tree.put location (.file (before ++ bytes))
  | _ => tree

/-- The location of the entry that renaming a file to a path replaces or makes. -/
def renameTarget (tree : FileTree) (path : Text) : Except FileFault Location :=
  match pathFault? path with
  | some fault => .error fault
  | none =>
    let path := Path.ofText path
    match tree.walk .existing linkLimit (path.start tree.workDirectory) path.names.dropLast with
    | .error error => .error (.system error)
    | .ok directory =>
      match path.names.getLast? with
      | none => .error (.system .busy)
      | some name =>
        if !tree.isDirectory directory then .error (.system .notDirectory)
        else if name = Path.here ∨ name = Path.above then .error (.system .busy)
        else if nameLimit < Utf8.size name then .error (.system .nameTooLong)
        else if path.slashed then .error (.system .notDirectory)
        else if tree.isDirectory (directory ++ [name]) then .error (.system .isDirectory)
        else .ok (directory ++ [name])

/-- Moves the entry at a location to a path, over what stands there. -/
def rename (tree : FileTree) (location : Location) (path : Text) : Except FileFault FileTree :=
  match tree.renameTarget path with
  | .error fault => .error fault
  | .ok target =>
    match tree.find? location with
    | none => .error (.system .noEntry)
    | some entry => .ok ((tree.erase location).put target entry)

/-! ### Names of temporary files -/

/-- What tells the temporary files of runs apart: the number of the process and the nanoseconds of
its system time. -/
def runTag (process nanoseconds : Nat) : Text :=
  Decimal.ofNat process ++ ['.'] ++ Decimal.ofNat nanoseconds

/-- The name of the temporary file for a file name; the tag tells runs apart. -/
def temporaryName (name tag : Text) : Text :=
  ['.'] ++ name ++ ['.'] ++ tag ++ ".tmp".toList

/-- The path of the temporary file for an output, if the output has a file name. -/
def temporaryPath? (path tag : Text) : Option Text :=
  let path := Path.ofText path
  path.fileName?.map fun name => Path.join path.directory (temporaryName name tag)

end FileTree

/-! ### Storages -/

/-- A place that keeps files, by what a publication asks of it beside the filling of a file. What
the place refuses ends with a fault. -/
structure Storage (m : Type → Type) (File : Type) where
  create : Text → ExceptT FileFault m File
  /-- Brings a file to the device. -/
  sync : File → ExceptT FileFault m Unit
  rename : File → Text → ExceptT FileFault m Unit
  remove : File → m Unit

namespace Storage

variable {m : Type → Type} [Monad m] {File : Type}

/-- Fills a temporary file, brings it to the device and renames it to a path. -/
def complete (storage : Storage m File) (path : Text) (fill : File → ExceptT FileFault m Unit)
    (file : File) : ExceptT FileFault m Unit := do
  fill file
  storage.sync file
  storage.rename file path

/-- **Publishes at a path** what is filled into a temporary file. The temporary file is removed when
a step after its creation is refused. -/
def publish (storage : Storage m File) (path tag : Text) (fill : File → ExceptT FileFault m Unit) :
    ExceptT FileFault m Unit := do
  match FileTree.temporaryPath? path tag with
  | none => throw .noFileName
  | some temporaryPath =>
    let file ← storage.create temporaryPath
    tryCatch (storage.complete path fill file) fun fault => do
      storage.remove file
      throw fault

end Storage

namespace FileTree

/-- A file tree as a storage. It has no device to bring a file to. -/
def storage : Storage (StateM FileTree) Location where
  create path := fun tree =>
    match tree.create path with
    | .error fault => (.error fault, tree)
    | .ok (location, created) => (.ok location, created)
  sync _ := pure ()
  rename location path := fun tree =>
    match tree.rename location path with
    | .error fault => (.error fault, tree)
    | .ok renamed => (.ok (), renamed)
  remove location := modify (erase · location)

/-! ### Publication -/

/-- How filling the temporary file goes: the bytes that reach it, and the fault that ends it
early, if any. -/
structure Filling where
  bytes : List UInt8
  fault? : Option FileFault

/-- Fills a file. -/
def Filling.fill (filling : Filling) (location : Location) :
    ExceptT FileFault (StateM FileTree) Unit := fun tree =>
  (filling.fault?.elim (.ok ()) .error, tree.append location filling.bytes)

/-- The filling that writes all bytes. -/
def Filling.complete (bytes : List UInt8) : Filling :=
  { bytes, fault? := none }

/-- How writing bytes to a file goes: all of them reach it, or the first of them and then a
fault. A fault when the file is brought to the device comes after all bytes. -/
inductive Writing
  | whole
  | cutShort (count : Nat) (fault : FileFault)

/-- The filling that writes bytes, by how that goes. -/
def Writing.filling (bytes : List UInt8) : Writing → Filling
  | whole => .complete bytes
  | cutShort count fault => { bytes := bytes.take count, fault? := some fault }

/-- Publishes at a path what a filling writes. -/
def publishWith (tree : FileTree) (path tag : Text) (filling : Filling) :
    Except FileFault Unit × FileTree :=
  (storage.publish path tag filling.fill).run.run tree

/-- Publishes bytes at a path, where writing them goes as given. -/
def publishVia (tree : FileTree) (path tag : Text) (writing : Writing) (bytes : List UInt8) :
    Except FileFault Unit × FileTree :=
  tree.publishWith path tag (writing.filling bytes)

end FileTree

end ExportManifest
