/-
**A publication is all or nothing.**

A publication can fail before the temporary file exists (no file name, or nowhere to make the
file), while it is filled, and when it is renamed. In the last two cases the temporary file is taken
away again, and since nothing stood at its location before, that gives back the very tree the
publication started from.

* `create_vacant`: a temporary file of a fresh name is a new entry, reached through no link.
* `renameTarget_eq_ok_iff`: renaming replaces the entry that the output names, its file name in its
  parent, and only where no directory stands.
* `publishWith_eq`: a publication on a tree, step by step.
* `publishWith_cases`: **what a publication can do**, in two cases; every statement about
  publications follows from it.
* `publication_all_or_nothing`: a failed publication and a failed run change nothing, and a
  successful publication changes the one entry that the output names.
-/

import ExportManifest.Proofs.FileTree.Resolution
import ExportManifest.Scanner

namespace ExportManifest

namespace FileTree

/-! ### Fresh names -/

/-- Whether nothing stands where a path names an entry; a link would count as something. -/
def vacant (tree : FileTree) (path : Text) : Bool :=
  match tree.locate .unfollowed path with
  | .ok location => (tree.find? location).isNone
  | .error _ => true

/-- Whether the temporary file for an output has a name that no entry has. -/
def freshTag (tree : FileTree) (output tag : Text) : Bool :=
  match temporaryPath? output tag with
  | some temporary => tree.vacant temporary
  | none => true

theorem locate_eq_ok_iff {tree : FileTree} {ending : Ending} {path : Text} {location : Location} :
    tree.locate ending path = .ok location ↔
      pathFault? path = none ∧
        tree.walk ending linkLimit ((Path.ofText path).start tree.workDirectory)
          (Path.ofText path).steps = .ok location := by
  unfold locate
  cases pathFault? path with
  | some fault => simp
  | none =>
    simp only [true_and]
    cases tree.walk ending linkLimit ((Path.ofText path).start tree.workDirectory)
      (Path.ofText path).steps <;> simp

/-- Where a file may be made, the path names that place or a link. -/
theorem locate_unfollowed_of_possiblyNew {tree : FileTree} {path : Text} {location : Location}
    (found : tree.locate .possiblyNew path = .ok location) :
    ∃ named, tree.locate .unfollowed path = .ok named ∧
      (named = location ∨ ∃ target, tree.find? named = some (.link target)) := by
  obtain ⟨sound, walks⟩ := locate_eq_ok_iff.mp found
  obtain ⟨named, unfollowed, kind⟩ := walk_unfollowed_of_possiblyNew _ _ _ walks
  exact ⟨named, locate_eq_ok_iff.mpr ⟨sound, unfollowed⟩, kind⟩

/-- **A file created under a vacant name is a new entry.** -/
theorem create_vacant {tree created : FileTree} {path : Text} {location : Location}
    (vacant : tree.vacant path = true) (creates : tree.create path = .ok (location, created)) :
    tree.locate .unfollowed path = .ok location ∧ tree.find? location = none ∧
      created = tree.put location (.file []) := by
  unfold create at creates
  cases found : tree.locate .possiblyNew path with
  | error fault =>
    rw [found] at creates
    cases creates
  | ok place =>
    rw [found] at creates
    simp only at creates
    split at creates
    · cases creates
    · cases creates
      obtain ⟨named, unfollowed, kind⟩ := locate_unfollowed_of_possiblyNew found
      rw [FileTree.vacant, unfollowed, Option.isNone_iff_eq_none] at vacant
      rcases kind with rfl | ⟨target, link⟩
      · exact ⟨unfollowed, vacant, rfl⟩
      · rw [vacant] at link
        cases link

/-- A new file at a fresh location disturbs no walk to a directory. -/
theorem undisturbed_put_file {tree : FileTree} {location : Location}
    (fresh : tree.find? location = none) (bytes : List UInt8) (places : List Location) :
    Undisturbed tree (tree.put location (.file bytes)) places := by
  refine ⟨isDirectory_put_file (isDirectory_eq_false_of_none fresh) bytes, fun place _ => ?_⟩
  by_cases same : place = location
  · subst same
    exact Or.inr ⟨fresh, bytes, find?_put_same tree (ne_root_of_find?_none fresh) _⟩
  · exact Or.inl (find?_put_other tree same _)

theorem parent?_put_file {tree : FileTree} {location : Location}
    (fresh : tree.find? location = none) (bytes : List UInt8) (path : Text) :
    (tree.put location (.file bytes)).parent? path = tree.parent? path :=
  parent?_eq_of_undisturbed rfl (undisturbed_put_file fresh bytes _)

/-! ### What renaming replaces -/

/-- A path whose last name is an entry's name has it as its file name, and the names before it
lead to its parent. -/
theorem fileName?_of_last {path : Text} {name : Text}
    (last : (Path.ofText path).names.getLast? = some name) (notHere : name ≠ Path.here)
    (notAbove : name ≠ Path.above) :
    (Path.ofText path).fileName? = some name ∧
      parentNames path = withoutDots (Path.ofText path).names.dropLast := by
  obtain ⟨front, shape⟩ := List.getLast?_eq_some_iff.mp last
  have proper : (Path.ofText path).properNames = withoutDots front ++ [name] := by
    rw [Path.properNames, shape, List.filter_append, withoutDots]
    simp [notHere]
  constructor
  · rw [Path.fileName?, proper, List.getLast?_concat]
    simp only
    rw [if_neg notAbove]
  · rw [parentNames, proper, shape, List.dropLast_concat, List.dropLast_concat]

/-- The entry that a path names stands, under the last name of the path, in the directory that the
names before it reach. -/
theorem namedLocation?_eq_some_iff {tree : FileTree} {path name : Text} {target : Location}
    (last : (Path.ofText path).names.getLast? = some name) (proper : IsEntryName name) :
    tree.namedLocation? path = some target ↔
      ∃ directory, tree.Reaches linkLimit ((Path.ofText path).start tree.workDirectory)
        (Path.ofText path).names.dropLast directory ∧ target = directory ++ [name] := by
  obtain ⟨named, parents⟩ := fileName?_of_last last proper.notHere proper.notAbove
  have parent : ∀ directory, tree.parent? path = some directory ↔
      tree.Reaches linkLimit ((Path.ofText path).start tree.workDirectory)
        (Path.ofText path).names.dropLast directory := by
    intro directory
    rw [parent?_eq_some_iff, parents, ← reaches_withoutDots]
  simp only [← parent]
  rw [namedLocation?, named]
  cases tree.parent? path with
  | none => simp
  | some directory => simp [eq_comm]

/-- **What renaming asks of a path**: that the system takes it, that its last name is the name of an
entry in a directory, and that no directory stands there. -/
theorem renameTarget_eq_ok_iff {tree : FileTree} {path : Text} {target : Location} :
    tree.renameTarget path = .ok target ↔
      pathFault? path = none ∧ (Path.ofText path).slashed = false ∧
        (∃ name, (Path.ofText path).names.getLast? = some name ∧ IsEntryName name ∧
          Utf8.size name ≤ nameLimit) ∧
        tree.namedLocation? path = some target ∧ tree.isDirectory target = false := by
  constructor
  · intro targets
    unfold renameTarget at targets
    split at targets
    · cases targets
    rename_i sound
    simp only at targets
    split at targets
    · cases targets
    rename_i directory walks
    split at targets
    · cases targets
    rename_i name last
    split at targets
    · cases targets
    rename_i isDirectory
    split at targets
    · cases targets
    rename_i noDots
    split at targets
    · cases targets
    rename_i fits
    split at targets
    · cases targets
    rename_i unslashed
    split at targets
    · cases targets
    rename_i noDirectory
    cases targets
    obtain ⟨notHere, notAbove⟩ := not_or.mp noDots
    have proper : IsEntryName name := ⟨notHere, notAbove⟩
    refine ⟨sound, by simpa using unslashed, ⟨name, last, proper, by omega⟩, ?_,
      by simpa using noDirectory⟩
    rw [namedLocation?_eq_some_iff last proper]
    exact ⟨directory, ⟨walks, by simpa using isDirectory⟩, rfl⟩
  · rintro ⟨sound, unslashed, ⟨name, last, proper, fits⟩, named, noDirectory⟩
    obtain ⟨directory, ⟨walks, isDirectory⟩, rfl⟩ :=
      (namedLocation?_eq_some_iff last proper).mp named
    unfold renameTarget
    simp only [sound, walks, last, isDirectory, unslashed, noDirectory, proper.notHere,
      proper.notAbove, Nat.not_lt.mpr fits]
    simp

/-- **Renaming replaces the entry that the path names**, and only where no directory stands. -/
theorem renameTarget_named {tree : FileTree} {path : Text} {target : Location}
    (targets : tree.renameTarget path = .ok target) :
    tree.namedLocation? path = some target ∧ tree.isDirectory target = false :=
  (renameTarget_eq_ok_iff.mp targets).2.2.2

/-- Renaming meets the same target in two trees in which the output has the same parent and the same
directories stand. -/
theorem renameTarget_congr {before after : FileTree} {path : Text}
    (sameParent : after.parent? path = before.parent? path)
    (directories : ∀ location, after.isDirectory location = before.isDirectory location)
    (target : Location) :
    after.renameTarget path = .ok target ↔ before.renameTarget path = .ok target := by
  rw [renameTarget_eq_ok_iff, renameTarget_eq_ok_iff, namedLocation?_congr sameParent, directories]

/-- **Renaming a new file over an output** sets the entry that the output named before the file was
made, and takes the file away from where it was made. -/
theorem rename_new_file {tree published : FileTree} {temporary : Location} {path : Text}
    {bytes : List UInt8} (fresh : tree.find? temporary = none)
    (renames : (tree.put temporary (.file bytes)).rename temporary path = .ok published) :
    ∃ target, tree.namedLocation? path = some target ∧ tree.isDirectory target = false ∧
      published = tree.put target (.file bytes) := by
  unfold rename at renames
  cases targets : (tree.put temporary (.file bytes)).renameTarget path with
  | error fault =>
    rw [targets] at renames
    cases renames
  | ok target =>
    rw [targets, find?_put_same tree (ne_root_of_find?_none fresh), erase_put fresh] at renames
    obtain ⟨named, noDirectory⟩ := renameTarget_named targets
    rw [namedLocation?_congr (parent?_put_file fresh bytes path)] at named
    rw [isDirectory_put_file (isDirectory_eq_false_of_none fresh)] at noDirectory
    exact ⟨target, named, noDirectory, (Except.ok.inj renames).symm⟩

/-! ### The steps on a tree -/

/-- What completing a temporary file does: it is filled, and renamed if that went well. -/
theorem run_complete (tree : FileTree) (path : Text) (filling : Filling) (temporary : Location) :
    (storage.complete path filling.fill temporary).run.run tree =
      match filling.fault? with
      | some fault => (.error fault, tree.append temporary filling.bytes)
      | none =>
        match (tree.append temporary filling.bytes).rename temporary path with
        | .error fault => (.error fault, tree.append temporary filling.bytes)
        | .ok published => (.ok (), published) := by
  obtain ⟨bytes, fault?⟩ := filling
  cases fault? with
  | some fault => rfl
  | none => rfl

/-- What a step leaves when its refusal removes a file. -/
theorem run_removing (tree : FileTree) (temporary : Location)
    (step : ExceptT FileFault (StateM FileTree) Unit) :
    (tryCatch step fun fault => do
        storage.remove temporary
        throw fault : ExceptT FileFault (StateM FileTree) Unit).run.run tree =
      match step.run.run tree with
      | (.error fault, after) => (.error fault, after.erase temporary)
      | (.ok (), after) => (.ok (), after) := by
  rw [ExceptT.run_tryCatch, StateT.run_bind]
  rcases step.run.run tree with ⟨_ | _, after⟩
  · rfl
  · rfl

/-- **The steps of a publication on a tree**, one after another. -/
theorem publishWith_eq (tree : FileTree) (path tag : Text) (filling : Filling) :
    tree.publishWith path tag filling =
      match temporaryPath? path tag with
      | none => (.error .noFileName, tree)
      | some temporaryPath =>
        match tree.create temporaryPath with
        | .error fault => (.error fault, tree)
        | .ok (temporary, created) =>
          match filling.fault? with
          | some fault => (.error fault, (created.append temporary filling.bytes).erase temporary)
          | none =>
            match (created.append temporary filling.bytes).rename temporary path with
            | .error fault =>
              (.error fault, (created.append temporary filling.bytes).erase temporary)
            | .ok published => (.ok (), published) := by
  unfold publishWith Storage.publish
  cases temporaryPath? path tag with
  | none => rfl
  | some temporaryPath =>
    have creates : (storage.create temporaryPath).run.run tree =
        match tree.create temporaryPath with
        | .error fault => (.error fault, tree)
        | .ok (temporary, created) => (.ok temporary, created) := rfl
    simp only [ExceptT.run_bind, StateT.run_bind]
    rw [creates]
    cases tree.create temporaryPath with
    | error fault => rfl
    | ok made =>
      obtain ⟨temporary, created⟩ := made
      show StateT.run (ExceptT.run (tryCatch (storage.complete path filling.fill temporary) _))
        created = _
      rw [run_removing, run_complete]
      cases filling.fault? with
      | some fault => rfl
      | none =>
        simp only
        cases (created.append temporary filling.bytes).rename temporary path with
        | error fault => rfl
        | ok published => rfl
/-! ### What a publication does -/

/-- **A publication fails and leaves the tree as it was, or sets the entry that the output names**
to a file of the bytes it was filled with. -/
theorem publishWith_cases {tree : FileTree} {path tag : Text}
    (fresh : tree.freshTag path tag = true) (filling : Filling) :
    (∃ fault, tree.publishWith path tag filling = (.error fault, tree)) ∨
      ∃ target, filling.fault? = none ∧ tree.namedLocation? path = some target ∧
        tree.isDirectory target = false ∧
        tree.publishWith path tag filling = (.ok (), tree.put target (.file filling.bytes)) := by
  rw [publishWith_eq]
  unfold freshTag at fresh
  cases named : temporaryPath? path tag with
  | none => exact Or.inl ⟨_, rfl⟩
  | some temporaryPath =>
    rw [named] at fresh
    simp only at fresh ⊢
    cases creates : tree.create temporaryPath with
    | error fault => exact Or.inl ⟨fault, rfl⟩
    | ok made =>
      obtain ⟨temporary, created⟩ := made
      obtain ⟨_, absent, rfl⟩ := create_vacant fresh creates
      simp only
      rw [append_put tree (ne_root_of_find?_none absent), List.nil_append, erase_put absent]
      cases filling.fault? with
      | some fault => exact Or.inl ⟨fault, rfl⟩
      | none =>
        simp only
        cases renames : (tree.put temporary (.file filling.bytes)).rename temporary path with
        | error fault => exact Or.inl ⟨fault, rfl⟩
        | ok published =>
          obtain ⟨target, entry, noDirectory, rfl⟩ := rename_new_file absent renames
          exact Or.inr ⟨target, trivial, entry, noDirectory, rfl⟩

theorem publishWith_error {tree : FileTree} {path tag : Text}
    (fresh : tree.freshTag path tag = true) {filling : Filling} {fault : FileFault}
    (fails : (tree.publishWith path tag filling).1 = .error fault) :
    (tree.publishWith path tag filling).2 = tree := by
  rcases publishWith_cases fresh filling with ⟨_, same⟩ | ⟨_, _, _, _, same⟩
  · rw [same]
  · rw [same] at fails
    cases fails

/-- The second tree is the first with a file of the given bytes at a location, and nothing else. -/
structure Replaced (before after : FileTree) (location : Location) (bytes : List UInt8) : Prop where
  entry : after.find? location = some (.file bytes)
  elsewhere : ∀ other, other ≠ location → after.find? other = before.find? other
  workDirectory : after.workDirectory = before.workDirectory

theorem replaced_put {tree : FileTree} {location : Location}
    (noDirectory : tree.isDirectory location = false) (bytes : List UInt8) :
    Replaced tree (tree.put location (.file bytes)) location bytes where
  entry := find?_put_same tree (ne_root_of_not_directory noDirectory) _
  elsewhere _ different := find?_put_other tree different _
  workDirectory := rfl

/-- A writing without a fault is a whole one. -/
theorem Writing.bytes_of_no_fault {writing : Writing} {bytes : List UInt8}
    (sound : (writing.filling bytes).fault? = none) : (writing.filling bytes).bytes = bytes := by
  cases writing with
  | whole => rfl
  | cutShort => cases sound

/-- What reaches a file are the first of the bytes. -/
theorem Writing.filling_prefix (writing : Writing) (bytes : List UInt8) :
    (writing.filling bytes).bytes <+: bytes := by
  cases writing with
  | whole => exact List.prefix_rfl
  | cutShort count fault => exact List.take_prefix count bytes

theorem publishVia_ok {tree : FileTree} {path tag : Text} (fresh : tree.freshTag path tag = true)
    {writing : Writing} {bytes : List UInt8}
    (succeeds : (tree.publishVia path tag writing bytes).1 = .ok ()) :
    ∃ location, tree.namedLocation? path = some location ∧
      Replaced tree (tree.publishVia path tag writing bytes).2 location bytes := by
  unfold publishVia at succeeds ⊢
  rcases publishWith_cases fresh (writing.filling bytes) with
    ⟨_, same⟩ | ⟨target, sound, named, noDirectory, same⟩
  · rw [same] at succeeds
    cases succeeds
  · rw [same, Writing.bytes_of_no_fault sound]
    exact ⟨target, named, replaced_put noDirectory bytes⟩

end FileTree

open FileTree

/-! ### Failure changes nothing -/

/-- A run whose scan fails, or whose publication fails, leaves the tree as it was. -/
theorem Scanner.runVia_error {scanner : Scanner} {writing : Writing} {tree : FileTree}
    {tag source output : Text} {version : Int64} {failure : Failure}
    (fresh : tree.freshTag output tag = true)
    (fails : (scanner.runVia writing tree tag source output version).1.result = .error failure) :
    (scanner.runVia writing tree tag source output version).2 = tree := by
  unfold Scanner.runVia at fails ⊢
  simp only at fails ⊢
  cases scanned : (scanner.scanFile tree source version).result with
  | error _ => rfl
  | ok outcome =>
    rw [scanned] at fails
    obtain ⟨fault, ended⟩ : ∃ fault,
        (tree.publishVia output tag writing (scanner.fileBytes outcome)).1 = .error fault := by
      simp only [Scan.written] at fails
      split at fails
      · exact ⟨_, by assumption⟩
      · cases fails
    exact publishWith_error fresh ended

/-- **All or nothing.** Whatever the tree, the output and its filling, a failed publication leaves
the tree exactly as it was, and so does a run that fails at any stage. A publication of bytes that
succeeds changes the one entry that the output names into a file of those bytes. The name of the
temporary file is taken to be fresh. -/
theorem publication_all_or_nothing (tree : FileTree) (output tag : Text)
    (fresh : tree.freshTag output tag = true) :
    (∀ filling fault, (tree.publishWith output tag filling).1 = .error fault →
      (tree.publishWith output tag filling).2 = tree) ∧
    (∀ writing bytes, (tree.publishVia output tag writing bytes).1 = .ok () →
      ∃ location, tree.namedLocation? output = some location ∧
        Replaced tree (tree.publishVia output tag writing bytes).2 location bytes) ∧
    (∀ (scanner : Scanner) writing source version failure,
      (scanner.runVia writing tree tag source output version).1.result = .error failure →
        (scanner.runVia writing tree tag source output version).2 = tree) := by
  refine ⟨?_, ?_, ?_⟩
  · intro filling fault fails
    exact publishWith_error fresh fails
  · intro writing bytes succeeds
    exact publishVia_ok fresh succeeds
  · intro scanner writing source version failure fails
    exact Scanner.runVia_error fresh fails

/-- A link as the output: a publication that succeeds replaces the link and not what it leads to,
and one whose device takes a single byte leaves the link. -/
theorem publication_all_or_nothing_link :
    let tree : FileTree :=
      { entries := [(["w".toList], .directory), (["w".toList, "out".toList], .link "old".toList),
          (["w".toList, "old".toList], .file [1])]
        workDirectory := ["w".toList] }
    let published := tree.publishVia "out".toList "7.9".toList .whole [2, 3]
    let failed := tree.publishVia "out".toList "7.9".toList (.cutShort 1 (.system .noSpace)) [2, 3]
    tree.freshTag "out".toList "7.9".toList = true ∧
      published.1 = .ok () ∧ Replaced tree published.2 ["w".toList, "out".toList] [2, 3] ∧
      failed.1 = .error (.system .noSpace) ∧ failed.2 = tree := by
  intro tree published failed
  have fresh : tree.freshTag "out".toList "7.9".toList = true := by decide
  have succeeds : published.1 = .ok () := by rfl
  have fails : failed.1 = .error (.system .noSpace) := by rfl
  obtain ⟨unchanged, replaces, _⟩ :=
    publication_all_or_nothing tree "out".toList "7.9".toList fresh
  obtain ⟨location, named, replaced⟩ := replaces .whole [2, 3] succeeds
  have place : tree.namedLocation? "out".toList = some ["w".toList, "out".toList] := by decide
  rw [place, Option.some.injEq] at named
  subst named
  exact ⟨fresh, succeeds, replaced, fails, unchanged _ _ fails⟩

end ExportManifest
