/-
**Publishing again over a published file.**

A publication changes one entry. What a path leads to stays the same as long as that entry is not on
the way, and a second publication of the same output meets the same parent, the same target and
again a free place for its temporary file. So it succeeds where the first one did, and with the same
bytes it leaves the very same tree.

* `walk_eq_of_kept`: **a walk depends on the entries it looks up**, and on which locations are
  directories; `read_put_file` is that for reading.
* `Publishable`: what a publication needs of a tree. `publishWith_publishable` and
  `publishable_of_ok` say that it needs this and nothing else.
* `Publishable.again`: a tree that was publishable still is after the publication, under any fresh
  name.
* `FreshName.of_noLonger`: a name is fresh if nothing has it and it is no longer than one that was
  fresh.
-/

import ExportManifest.Proofs.FileTree.TemporaryPath

namespace ExportManifest.FileTree

/-! ### Reading past a changed entry -/

/-- **Two trees that agree on the trail of a walk give it the same end**, if they have the same
directories. -/
theorem walk_eq_of_kept {before after : FileTree}
    (directories : ∀ location, after.isDirectory location = before.isDirectory location)
    (links : Nat) (here : Location) (names : List Text)
    (kept : ∀ place ∈ before.trail links here names, after.find? place = before.find? place) :
    after.walk .existing links here names = before.walk .existing links here names := by
  induction links, here, names using walkInduction with
  | stop links here => rw [walk_nil, walk_nil]
  | next links here name rest ih fewer =>
    have sameStride : after.stride here name = before.stride here name := by
      rw [stride, stride, directories]
    rw [trail_cons] at kept
    rw [walk_cons, walk_cons, sameStride]
    generalize before.stride here name = stride at kept ⊢
    rcases stride with error | there | place
    · rfl
    · exact ih there kept
    · simp only at kept ⊢
      have tail := fun other member => kept other (List.mem_cons_of_mem place member)
      rw [kept place List.mem_cons_self]
      generalize before.find? place = found at tail ⊢
      rcases found with _ | ⟨bytes | _ | target⟩
      · rfl
      · exact ih place tail
      · exact ih place tail
      · cases links with
        | zero => rfl
        | succ links => simpa [follow] using fewer links (by omega) _ _ tail

/-- The places on the way to what a path leads to, the end of the way included. -/
def wayTo (tree : FileTree) (path : Text) : List Location :=
  tree.trail linkLimit ((Path.ofText path).start tree.workDirectory) (Path.ofText path).steps ++
    (tree.locate .existing path).toOption.toList

/-- **A file set aside from the way to a path does not change what is read there.** -/
theorem read_put_file {tree : FileTree} {location : Location} {path : Text}
    (noDirectory : tree.isDirectory location = false) (aside : location ∉ tree.wayTo path)
    (bytes : List UInt8) :
    (tree.put location (.file bytes)).read path = tree.read path := by
  have elsewhere : ∀ place ∈ tree.wayTo path,
      (tree.put location (.file bytes)).find? place = tree.find? place := by
    intro place member
    refine find?_put_other tree ?_ _
    rintro rfl
    exact aside member
  have sameEnd : (tree.put location (.file bytes)).locate .existing path =
      tree.locate .existing path := by
    unfold locate
    cases pathFault? path with
    | some fault => rfl
    | none =>
      have walks := walk_eq_of_kept (isDirectory_put_file noDirectory bytes) linkLimit
        ((Path.ofText path).start tree.workDirectory) (Path.ofText path).steps
        fun place member => elsewhere place (List.mem_append_left _ member)
      have start : (tree.put location (.file bytes)).workDirectory = tree.workDirectory := rfl
      simp only [start, walks]
  unfold read
  rw [sameEnd]
  cases ends : tree.locate .existing path with
  | error fault => rfl
  | ok place =>
    have last : place ∈ tree.wayTo path := by
      rw [wayTo, ends]
      exact List.mem_append_right _ List.mem_cons_self
    simp only [elsewhere place last]

/-! ### What a publication needs -/

/-- Where nothing stands, a walk that follows its last name ends as one that does not. -/
theorem walk_possiblyNew_of_unfollowed {tree : FileTree} {location : Location}
    (absent : tree.find? location = none) (links : Nat) (here : Location) (names : List Text)
    (walks : tree.walk .unfollowed links here names = .ok location) :
    tree.walk .possiblyNew links here names = .ok location := by
  induction links, here, names using walkInduction with
  | stop links here =>
    rw [walk_nil] at walks ⊢
    exact walks
  | next links here name rest ih fewer =>
    rw [walk_cons] at walks
    rw [walk_cons]
    generalize tree.stride here name = stride at walks ⊢
    rcases stride with error | there | place
    · cases walks
    · exact ih there walks
    · simp only at walks ⊢
      cases found : tree.find? place with
      | none =>
        rw [found] at walks
        exact walks
      | some entry =>
        rw [found] at walks
        cases entry with
        | file bytes => exact ih place walks
        | directory => exact ih place walks
        | link target =>
          by_cases ends : rest.isEmpty = true
          · -- The walk stopped at a link, so something stands at its end.
            simp only [ends, Bool.true_and] at walks
            cases walks
            rw [found] at absent
            cases absent
          · cases links with
            | zero => simp [follow, ends] at walks
            | succ links =>
              have walksOn : tree.walk .unfollowed links ((Path.ofText target).start here)
                  ((Path.ofText target).steps ++ rest) = .ok location := by
                simpa [follow, ends] using walks
              simpa [follow] using fewer links (by omega) _ _ walksOn

/-- A file is created where nothing stands. -/
theorem create_of_absent {tree : FileTree} {path : Text} {location : Location}
    (place : tree.locate .unfollowed path = .ok location) (absent : tree.find? location = none) :
    tree.create path = .ok (location, tree.put location (.file [])) := by
  obtain ⟨sound, walks⟩ := locate_eq_ok_iff.mp place
  have found : tree.locate .possiblyNew path = .ok location :=
    locate_eq_ok_iff.mpr ⟨sound, walk_possiblyNew_of_unfollowed absent _ _ _ walks⟩
  rw [create, found]
  simp only
  rw [if_neg (by simp [isDirectory_eq_false_of_none absent])]

/-- **A fresh name** for the temporary file of an output: the file has a place in the tree, which one
with a name that the system does not take has not, and nothing stands there. -/
def FreshName (tree : FileTree) (path tag : Text) : Prop :=
  ∃ temporary file, temporaryPath? path tag = some temporary ∧
    tree.locate .unfollowed temporary = .ok file ∧ tree.find? file = none

/-- **What a publication needs of a tree**: a fresh name for its temporary file, and a target to
rename that file to. -/
structure Publishable (tree : FileTree) (path tag : Text) (target : Location) : Prop where
  temporary : FreshName tree path tag
  target : tree.renameTarget path = .ok target

/-- A new file changes no target. -/
theorem renameTarget_put_file {tree : FileTree} {file target : Location} {path : Text}
    (absent : tree.find? file = none) (bytes : List UInt8) :
    (tree.put file (.file bytes)).renameTarget path = .ok target ↔
      tree.renameTarget path = .ok target :=
  renameTarget_congr (parent?_put_file absent bytes path)
    (isDirectory_put_file (isDirectory_eq_false_of_none absent) bytes) target

/-- **A publication that has what it needs succeeds.** -/
theorem publishWith_publishable {tree : FileTree} {path tag : Text} {target : Location}
    (publishable : Publishable tree path tag target) {filling : Filling}
    (sound : filling.fault? = none) :
    tree.publishWith path tag filling = (.ok (), tree.put target (.file filling.bytes)) := by
  obtain ⟨temporary, file, made, place, absent⟩ := publishable.temporary
  have below := ne_root_of_find?_none absent
  have targets := (renameTarget_put_file absent filling.bytes).mpr publishable.target
  rw [publishWith_eq, made]
  simp only
  rw [create_of_absent place absent]
  simp only
  rw [append_put tree below, List.nil_append, sound]
  simp only [rename, targets, find?_put_same tree below, erase_put absent]

/-- A publication that succeeds had what it needs. -/
theorem publishable_of_ok {tree : FileTree} {path tag : Text}
    (fresh : tree.freshTag path tag = true) {filling : Filling}
    (succeeds : (tree.publishWith path tag filling).1 = .ok ()) :
    ∃ target, Publishable tree path tag target := by
  rw [publishWith_eq] at succeeds
  unfold freshTag at fresh
  cases made : temporaryPath? path tag with
  | none =>
    rw [made] at succeeds
    cases succeeds
  | some temporary =>
    rw [made] at succeeds fresh
    simp only at succeeds fresh
    cases creates : tree.create temporary with
    | error fault =>
      rw [creates] at succeeds
      cases succeeds
    | ok created =>
      obtain ⟨file, created⟩ := created
      obtain ⟨place, absent, rfl⟩ := create_vacant fresh creates
      rw [creates] at succeeds
      simp only at succeeds
      rw [append_put tree (ne_root_of_find?_none absent), List.nil_append] at succeeds
      cases refused : filling.fault? with
      | some fault =>
        rw [refused] at succeeds
        cases succeeds
      | none =>
        rw [refused] at succeeds
        simp only [rename] at succeeds
        cases targets : (tree.put file (.file filling.bytes)).renameTarget path with
        | error fault =>
          rw [targets] at succeeds
          cases succeeds
        | ok target =>
          exact ⟨target, ⟨temporary, file, made, place, absent⟩,
            (renameTarget_put_file absent filling.bytes).mp targets⟩

/-! ### Publishing again -/

section

variable {tree : FileTree} {path tag other : Text} {target : Location}

theorem Publishable.noDirectory (publishable : Publishable tree path tag target) :
    tree.isDirectory target = false :=
  (renameTarget_named publishable.target).2

/-- The parent of an output is the same after a publication, if the way to it does not lead through
the entry that the output names. -/
theorem parent?_put_target (noDirectory : tree.isDirectory target = false)
    (aside : target ∉ tree.parentTrail path) (bytes : List UInt8) :
    (tree.put target (.file bytes)).parent? path = tree.parent? path := by
  refine parent?_eq_of_undisturbed rfl ⟨isDirectory_put_file noDirectory bytes, ?_⟩
  intro place member
  refine Or.inl (find?_put_other tree ?_ _)
  rintro rfl
  exact aside member

/-- **A published output can be published again**, under any fresh name for the temporary file. -/
theorem Publishable.again (publishable : Publishable tree path tag target)
    (aside : target ∉ tree.parentTrail path) (bytes : List UInt8)
    (fresh : FreshName (tree.put target (.file bytes)) path other) :
    Publishable (tree.put target (.file bytes)) path other target := by
  have noDirectory := publishable.noDirectory
  refine ⟨fresh, (renameTarget_congr (parent?_put_target noDirectory aside bytes) ?_ target).mpr
    publishable.target⟩
  exact isDirectory_put_file noDirectory bytes

end

/-! ### Names that are no longer -/

/-- A tag can be part of a name. -/
structure IsTag (tag : Text) : Prop where
  noSlash : '/' ∉ tag
  noZero : '\x00' ∉ tag

/-- The path of a temporary file holds the tag once, before its extension. -/
theorem temporaryPath?_shape {path name : Text} (named : (Path.ofText path).fileName? = some name) :
    ∃ front, ∀ tag, temporaryPath? path tag = some (front ++ (tag ++ ".tmp".toList)) := by
  have joined : ∃ front, ∀ text, Path.join (Path.ofText path).directory text = front ++ text := by
    unfold Path.join
    split
    · exact ⟨_, fun _ => rfl⟩
    · exact ⟨_, fun _ => rfl⟩
  obtain ⟨front, joins⟩ := joined
  refine ⟨front ++ (['.'] ++ (name ++ ['.'])), fun tag => ?_⟩
  rw [temporaryPath?, named, Option.map_some, joins, temporaryName]
  simp

theorem pathFault?_eq_none_iff {path : Text} :
    pathFault? path = none ↔ '\x00' ∉ path ∧ path ≠ [] ∧ Utf8.size path < pathLimit := by
  unfold pathFault?
  by_cases zero : '\x00' ∈ path
  · simp [zero]
  · by_cases empty : path = []
    · simp [empty]
    · simp [zero, empty]

theorem size_append (front back : Text) :
    Utf8.size (front ++ back) = Utf8.size front + Utf8.size back := by
  rw [Utf8.size, Utf8.encode, List.flatMap_append, List.length_append]
  rfl

section

variable {tree : FileTree} {path tag other : Text}

/-- Where the system takes the path of a temporary file, it takes that of one with another tag that
is no longer. -/
theorem pathFault?_temporaryPath {temporary : Text}
    (made : temporaryPath? path tag = some temporary) (sound : pathFault? temporary = none)
    (proper : IsTag other) (noLonger : Utf8.size other ≤ Utf8.size tag) :
    ∃ otherTemporary, temporaryPath? path other = some otherTemporary ∧
      pathFault? otherTemporary = none := by
  obtain ⟨name, named, _⟩ := Option.map_eq_some_iff.mp made
  obtain ⟨front, shape⟩ := temporaryPath?_shape named
  rw [shape tag, Option.some.injEq] at made
  subst made
  obtain ⟨noZero, _, fits⟩ := pathFault?_eq_none_iff.mp sound
  refine ⟨_, shape other, pathFault?_eq_none_iff.mpr ⟨?_, by simp, ?_⟩⟩
  · simp only [List.mem_append, not_or] at noZero ⊢
    exact ⟨noZero.1, proper.noZero, noZero.2.2⟩
  · simp only [size_append] at fits ⊢
    omega

/-- **A name that is no longer than a fresh one** is fresh in any tree in which the output has the
same parent, if nothing has that name there: the system takes it as it took the other one. -/
theorem FreshName.of_noLonger {after : FileTree} (fresh : FreshName tree path tag)
    (proper : IsTag tag) (otherProper : IsTag other) (noLonger : Utf8.size other ≤ Utf8.size tag)
    (sameParent : after.parent? path = tree.parent? path)
    (free : after.freshTag path other = true) : FreshName after path other := by
  obtain ⟨temporary, file, made, place, _⟩ := fresh
  obtain ⟨name, named, _⟩ := Option.map_eq_some_iff.mp made
  obtain ⟨sound, nameFits, directory, parent, _⟩ :=
    (locate_temporaryPath_iff proper.noSlash made named).mp place
  obtain ⟨otherTemporary, otherMade, otherSound⟩ :=
    pathFault?_temporaryPath made sound otherProper noLonger
  have otherFits : Utf8.size (temporaryName name other) ≤ nameLimit := by
    simp only [temporaryName, size_append] at nameFits ⊢
    omega
  have otherPlace : after.locate .unfollowed otherTemporary =
      .ok (directory ++ [temporaryName name other]) := by
    rw [locate_temporaryPath_iff otherProper.noSlash otherMade named]
    exact ⟨otherSound, otherFits, directory, sameParent.trans parent, rfl⟩
  refine ⟨otherTemporary, _, otherMade, otherPlace, ?_⟩
  rw [freshTag, otherMade] at free
  simpa [vacant, otherPlace] using free

end

/-! ### The tags of runs -/

/-- Digits take one byte each. -/
theorem size_ofNat (n : Nat) : Utf8.size (Decimal.ofNat n) = (Decimal.ofNat n).length := by
  have digits : ∀ c ∈ Decimal.ofNat n, (String.utf8EncodeChar c).length = 1 := by
    intro c member
    have small := (Char.isDigit_iff_toNat.mp
      (Nat.isDigit_of_mem_toDigits (by omega) (by omega) member)).2
    rw [String.length_utf8EncodeChar]
    exact Char.utf8Size_eq_one_iff.mpr (Nat.le_trans small (by decide))
  rw [Utf8.size, Utf8.encode, List.length_flatMap, List.map_congr_left digits, List.map_const',
    List.sum_replicate_nat, Nat.mul_one]

theorem isTag_runTag (process nanoseconds : Nat) : IsTag (runTag process nanoseconds) := by
  have digits : ∀ n, ∀ c ∈ Decimal.ofNat n, c.isDigit = true := fun n c member =>
    Nat.isDigit_of_mem_toDigits (by omega) (by omega) member
  have plain : ∀ c ∈ runTag process nanoseconds, c.isDigit = true ∨ c = '.' := by
    intro c member
    simp only [runTag, List.mem_append, List.mem_singleton] at member
    rcases member with (first | dot) | second
    · exact Or.inl (digits _ c first)
    · exact Or.inr dot
    · exact Or.inl (digits _ c second)
  constructor
  · intro member
    exact absurd (plain _ member) (by decide)
  · intro member
    exact absurd (plain _ member) (by decide)

theorem size_runTag (process nanoseconds : Nat) :
    Utf8.size (runTag process nanoseconds) =
      (Decimal.ofNat process).length + 1 + (Decimal.ofNat nanoseconds).length := by
  rw [runTag, size_append, size_append, size_ofNat, size_ofNat]
  rfl
end ExportManifest.FileTree
