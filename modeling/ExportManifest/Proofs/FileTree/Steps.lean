/-
**The steps of a publication.**

A publication is a sequence of steps on the tree: the temporary file is created, takes its bytes in
parts of any size, is brought to the device and renamed over the output; when the system refuses a
step after the first, the temporary file is removed. Between two steps a publication is in a
`Phase`. A step acts on whatever tree it finds: the open file is kept by its place, while renaming
and removing look the temporary file up again by its path.

* `Standing`: what a phase says about the entry at the place of the temporary file.
* `step_moves`: **what one step does**, given that the parent of the output is still the one it was
  at the start. A step changes the entry at the place of the temporary file, and the entry that the
  output names when it renames, and no other.
-/

import ExportManifest.Proofs.FileTree.TemporaryPath

namespace ExportManifest

open FileTree

/-- A publication of bytes; its tag goes into one name. -/
structure Publication where
  path : Text
  tag : Text
  bytes : List UInt8
  plainTag : '/' ∉ tag

namespace Publication

/-- Where a publication is between two of its steps. -/
inductive Phase
  | waiting
  /-- The temporary file is open, and the rest of the bytes is still to be written. -/
  | writing (file : Location) (rest : List UInt8)
  /-- The temporary file is complete and on the device. -/
  | synced
  /-- The temporary file is to be removed. -/
  | failing (fault : FileFault)
  | published
  | failed (fault : FileFault)
deriving DecidableEq

/-- A step: what a publication asks of the system, or the refusal of what it asks. -/
inductive Action
  | create
  /-- The system takes the next bytes, up to a number of them. -/
  | write (count : Nat)
  | sync
  | rename
  | remove
  | refuse (fault : FileFault)

/-! ### One step -/

/-- The place of the temporary file. -/
def temporary (publication : Publication) (tree : FileTree) : Except FileFault Location :=
  match temporaryPath? publication.path publication.tag with
  | none => .error .noFileName
  | some path => tree.locate .unfollowed path

/-- Creates the temporary file. -/
def create (publication : Publication) (tree : FileTree) : Phase × FileTree :=
  match temporaryPath? publication.path publication.tag with
  | none => (.failed .noFileName, tree)
  | some path =>
    match tree.create path with
    | .error fault => (.failed fault, tree)
    | .ok (file, created) => (.writing file publication.bytes, created)

/-- Renames the temporary file over the output. -/
def rename (publication : Publication) (tree : FileTree) : Phase × FileTree :=
  match publication.temporary tree with
  | .error fault => (.failing fault, tree)
  | .ok file =>
    match tree.rename file publication.path with
    | .error fault => (.failing fault, tree)
    | .ok renamed => (.published, renamed)

/-- Removes the temporary file; a directory is not removed. -/
def remove (publication : Publication) (tree : FileTree) : FileTree :=
  match publication.temporary tree with
  | .error _ => tree
  | .ok file => if tree.isDirectory file then tree else tree.erase file

/-- The phase and the tree after a step, if the publication takes that step in its phase. -/
def step? (publication : Publication) (tree : FileTree) : Phase → Action → Option (Phase × FileTree)
  | .waiting, .create => some (publication.create tree)
  | .waiting, .refuse fault => some (.failed fault, tree)
  | .writing file rest, .write count =>
    some (.writing file (rest.drop count), tree.append file (rest.take count))
  | .writing _ [], .sync => some (.synced, tree)
  | .writing _ _, .refuse fault => some (.failing fault, tree)
  | .synced, .rename => some (publication.rename tree)
  | .synced, .refuse fault => some (.failing fault, tree)
  | .failing fault, .remove => some (.failed fault, publication.remove tree)
  | _, _ => none

/-! ### Phases and the temporary file -/

/-- Whether a publication has a temporary file. -/
def Phase.hasFile : Phase → Bool
  | writing .. | synced | failing _ => true
  | waiting | published | failed _ => false

/-- How a publication ended, if it did. -/
def Phase.ending? : Phase → Option (Except FileFault Unit)
  | published => some (.ok ())
  | failed fault => some (.error fault)
  | _ => none

theorem Phase.hasFile_of_ended {phase : Phase} (ended : phase.ending?.isSome = true) :
    phase.hasFile = false := by
  cases phase <;> first | rfl | cases ended

/-- **What a phase says about the temporary file**, at the place that it had at the start. -/
inductive Standing (publication : Publication) (start tree : FileTree) : Phase → Prop
  | idle (phase : Phase) (idle : phase.hasFile = false)
      (absent : ∀ file, publication.temporary start = .ok file → tree.find? file = none) :
      Standing publication start tree phase
  | writing (file : Location) (written rest : List UInt8)
      (place : publication.temporary start = .ok file)
      (content : tree.find? file = some (.file written))
      (complete : written ++ rest = publication.bytes) :
      Standing publication start tree (.writing file rest)
  | synced (file : Location) (place : publication.temporary start = .ok file)
      (content : tree.find? file = some (.file publication.bytes)) :
      Standing publication start tree .synced
  | failing (file : Location) (written : List UInt8) (fault : FileFault)
      (place : publication.temporary start = .ok file)
      (content : tree.find? file = some (.file written)) :
      Standing publication start tree (.failing fault)

namespace Standing

variable {publication : Publication} {start tree : FileTree} {phase : Phase}

theorem absent {file : Location} (standing : Standing publication start tree phase)
    (idle : phase.hasFile = false) (place : publication.temporary start = .ok file) :
    tree.find? file = none := by
  cases standing with
  | idle _ _ absent => exact absent file place
  | writing => cases idle
  | synced => cases idle
  | failing => cases idle

/-- The place of the temporary file is empty or holds a file. -/
theorem entry {file : Location} (standing : Standing publication start tree phase)
    (place : publication.temporary start = .ok file) :
    tree.find? file = none ∨ ∃ bytes, tree.find? file = some (.file bytes) := by
  cases standing with
  | idle _ _ absent => exact Or.inl (absent file place)
  | writing _ written _ known content _ =>
    rw [place, Except.ok.injEq] at known
    exact Or.inr ⟨written, known ▸ content⟩
  | synced _ known content =>
    rw [place, Except.ok.injEq] at known
    exact Or.inr ⟨publication.bytes, known ▸ content⟩
  | failing _ written _ known content =>
    rw [place, Except.ok.injEq] at known
    exact Or.inr ⟨written, known ▸ content⟩

/-- What stands there depends on no other entry. -/
theorem congr {after : FileTree} (standing : Standing publication start tree phase)
    (same : ∀ file, publication.temporary start = .ok file → after.find? file = tree.find? file) :
    Standing publication start after phase := by
  cases standing with
  | idle phase idle absent =>
    exact .idle phase idle fun file place => (same file place).trans (absent file place)
  | writing file written rest place content complete =>
    exact .writing file written rest place ((same file place).trans content) complete
  | synced file place content => exact .synced file place ((same file place).trans content)
  | failing file written fault place content =>
    exact .failing file written fault place ((same file place).trans content)

end Standing

/-! ### What a step does -/

/-- **What one step of a publication does**: it changes no directory, and the entry at the place of
the temporary file alone, and with it the entry that the output names if it renames; that one is
then a file of all the bytes. -/
structure Moves (publication : Publication) (start before after : FileTree) (phase : Phase) :
    Prop where
  workDirectory : after.workDirectory = before.workDirectory
  directories : ∀ location, after.isDirectory location = before.isDirectory location
  elsewhere : ∀ location, publication.temporary start ≠ .ok location →
    (phase = .published → start.namedLocation? publication.path ≠ some location) →
    after.find? location = before.find? location
  standing : Standing publication start after phase
  target : phase = .published → ∃ location,
    start.namedLocation? publication.path = some location ∧
      after.find? location = some (.file publication.bytes)

variable {publication : Publication} {start before after : FileTree} {phase : Phase}
  {file : Location}

/-- A step that leaves the tree. -/
theorem moves_quiet (standing : Standing publication start before phase)
    (unpublished : phase ≠ .published) : Moves publication start before before phase where
  workDirectory := rfl
  directories _ := rfl
  elsewhere _ _ _ := rfl
  standing := standing
  target published := (unpublished published).elim

/-- A step that writes the temporary file. -/
theorem moves_put (place : publication.temporary start = .ok file)
    (noDirectory : before.isDirectory file = false) (written rest : List UInt8)
    (complete : written ++ rest = publication.bytes) :
    Moves publication start before (before.put file (.file written)) (.writing file rest) where
  workDirectory := rfl
  directories := isDirectory_put_file noDirectory written
  elsewhere location other _ := by
    refine find?_put_other before ?_ _
    rintro rfl
    exact other place
  standing := by
    refine .writing file written rest place ?_ complete
    exact find?_put_same before (ne_root_of_not_directory noDirectory) _
  target published := by cases published

/-- A step that takes the temporary file away. -/
theorem moves_erase (place : publication.temporary start = .ok file)
    (noDirectory : before.isDirectory file = false) (fault : FileFault) :
    Moves publication start before (before.erase file) (.failed fault) where
  workDirectory := rfl
  directories := isDirectory_erase noDirectory
  elsewhere location other _ := by
    refine find?_erase_other before ?_
    rintro rfl
    exact other place
  standing := by
    refine .idle _ rfl fun known same => ?_
    rw [place, Except.ok.injEq] at same
    subst same
    exact find?_erase_same before (ne_root_of_not_directory noDirectory)
  target published := by cases published

/-- A step that moves the temporary file over the output. -/
theorem moves_rename {target : Location} (place : publication.temporary start = .ok file)
    (content : before.find? file = some (.file publication.bytes))
    (named : start.namedLocation? publication.path = some target) (apart : target ≠ file)
    (noDirectory : before.isDirectory target = false) :
    Moves publication start before
      ((before.erase file).put target (.file publication.bytes)) .published := by
  have plain : before.isDirectory file = false := isDirectory_eq_false_of_file content
  have still : (before.erase file).isDirectory target = false := by
    rw [isDirectory_erase plain, noDirectory]
  have below : target ≠ [] := ne_root_of_not_directory noDirectory
  constructor
  · rfl
  · intro location
    rw [isDirectory_put_file still, isDirectory_erase plain]
  · intro location other unnamed
    have apartFromTarget : location ≠ target := by
      rintro rfl
      exact unnamed rfl named
    have apartFromFile : location ≠ file := by
      rintro rfl
      exact other place
    rw [find?_put_other _ apartFromTarget, find?_erase_other _ apartFromFile]
  · refine .idle _ rfl fun known same => ?_
    rw [place, Except.ok.injEq] at same
    subst same
    rw [find?_put_other _ (Ne.symm apart)]
    exact find?_erase_same before (ne_root_of_not_directory plain)
  · intro _
    exact ⟨target, named, find?_put_same _ below _⟩

/-- The temporary file is found where it was, as long as the output has the same parent. -/
theorem temporary_congr
    (sameParent : after.parent? publication.path = before.parent? publication.path)
    (location : Location) :
    publication.temporary after = .ok location ↔ publication.temporary before = .ok location := by
  unfold temporary
  cases made : temporaryPath? publication.path publication.tag with
  | none => exact Iff.rfl
  | some path => exact locate_temporaryPath_congr publication.plainTag made sameParent location

/-- **The temporary file is new** where nothing stands at its place. -/
theorem create_temporary {tree created : FileTree} {path : Text}
    (made : temporaryPath? publication.path publication.tag = some path)
    (absent : ∀ file, publication.temporary tree = .ok file → tree.find? file = none)
    (creates : tree.create path = .ok (file, created)) :
    publication.temporary tree = .ok file ∧ tree.find? file = none ∧
      created = tree.put file (.file []) := by
  have located : publication.temporary tree = tree.locate .unfollowed path := by
    rw [temporary, made]
  rw [located] at absent ⊢
  refine create_vacant ?_ creates
  unfold vacant
  cases found : tree.locate .unfollowed path with
  | error fault => rfl
  | ok location => simpa using absent location found

section

variable (sameParent : before.parent? publication.path = start.parent? publication.path)

include sameParent

theorem create_moves (standing : Standing publication start before .waiting) :
    Moves publication start before (publication.create before).2 (publication.create before).1 := by
  have places := temporary_congr sameParent
  have absent : ∀ file, publication.temporary before = .ok file → before.find? file = none :=
    fun file place => standing.absent rfl ((places file).mp place)
  have refused : ∀ fault, Moves publication start before before (.failed fault) := fun fault =>
    moves_quiet (.idle _ rfl fun _ => standing.absent rfl) (by simp)
  unfold create
  cases made : temporaryPath? publication.path publication.tag with
  | none => exact refused _
  | some path =>
    simp only
    cases creates : before.create path with
    | error fault => exact refused fault
    | ok created =>
      obtain ⟨file, tree⟩ := created
      obtain ⟨place, free, rfl⟩ := create_temporary made absent creates
      have noDirectory := isDirectory_eq_false_of_none free
      exact moves_put ((places file).mp place) noDirectory [] publication.bytes rfl

theorem rename_moves
    (apart : ∀ file, publication.temporary start = .ok file →
      start.namedLocation? publication.path ≠ some file)
    (standing : Standing publication start before .synced) :
    Moves publication start before (publication.rename before).2 (publication.rename before).1 := by
  cases standing with
  | idle _ idle => cases idle
  | synced file place content =>
    have found : publication.temporary before = .ok file :=
      (temporary_congr sameParent file).mpr place
    unfold rename
    rw [found]
    simp only
    cases renames : before.rename file publication.path with
    | error fault =>
      -- A refused renaming leaves the complete temporary file to be removed.
      exact moves_quiet (.failing file publication.bytes fault place content) (by simp)
    | ok renamed =>
      unfold FileTree.rename at renames
      cases targets : before.renameTarget publication.path with
      | error fault =>
        rw [targets] at renames
        cases renames
      | ok target =>
        rw [targets, content] at renames
        cases renames
        obtain ⟨named, noDirectory⟩ := renameTarget_named targets
        rw [namedLocation?_congr sameParent] at named
        refine moves_rename place content named ?_ noDirectory
        rintro rfl
        exact apart _ place named

theorem remove_moves {fault : FileFault}
    (standing : Standing publication start before (.failing fault)) :
    Moves publication start before (publication.remove before) (.failed fault) := by
  cases standing with
  | idle _ idle => cases idle
  | failing file written _ place content =>
    have found : publication.temporary before = .ok file :=
      (temporary_congr sameParent file).mpr place
    have noDirectory := isDirectory_eq_false_of_file content
    unfold remove
    rw [found]
    simp only
    rw [if_neg (by simp [noDirectory])]
    exact moves_erase place noDirectory fault

/-- **What one step does**, whatever the phase and the action. -/
theorem step_moves {next : Phase} {action : Action}
    (apart : ∀ file, publication.temporary start = .ok file →
      start.namedLocation? publication.path ≠ some file)
    (standing : Standing publication start before phase)
    (steps : publication.step? before phase action = some (next, after)) :
    Moves publication start before after next := by
  -- One case for each row of the step function; its last row takes no step.
  unfold step? at steps
  split at steps
  · have moves := create_moves sameParent standing
    rw [Option.some.inj steps] at moves
    exact moves
  · cases steps
    exact moves_quiet (.idle _ rfl fun _ => standing.absent rfl) (by simp)
  · cases steps
    cases standing with
    | idle _ idle => cases idle
    | writing file written rest place content complete =>
      rename_i count
      rw [append, content]
      refine moves_put place (isDirectory_eq_false_of_file content) _ _ ?_
      rw [List.append_assoc, List.take_append_drop, complete]
  · cases steps
    cases standing with
    | idle _ idle => cases idle
    | writing _ written _ place content complete =>
      rw [List.append_nil] at complete
      exact moves_quiet (.synced _ place (complete ▸ content)) (by simp)
  · cases steps
    cases standing with
    | idle _ idle => cases idle
    | writing _ written _ place content _ =>
      exact moves_quiet (.failing _ written _ place content) (by simp)
  · have moves := rename_moves sameParent apart standing
    rw [Option.some.inj steps] at moves
    exact moves
  · cases steps
    cases standing with
    | idle _ idle => cases idle
    | synced file place content =>
      exact moves_quiet (.failing file publication.bytes _ place content) (by simp)
  · cases steps
    exact remove_moves sameParent standing
  · cases steps

end

end Publication

end ExportManifest
