/-
**What a walk depends on, and where it ends.**

At each name a walk first decides by the directory it stands in alone whether it is refused, goes
on without looking, or looks up an entry (`stride`); what it does then depends on that entry. So the
entries that a walk looks up (`trail`) are all it depends on, together with which locations are
directories.

* `walkInduction`: the one induction behind every fact here, on the links still allowed and then on
  the names.
* `reaches_iff_of_undisturbed`: **a walk reaches the same directory** in two trees with the same
  directories that differ on its trail at most by new files. A new file where nothing stood lets a
  walk through only as its last step, and then it ends at no directory.
* `reaches_withoutDots`: the names `.` on the way to a directory can be left out.
* `walk_unfollowed_snoc`: an entry is found by its name in the directory reached before it.
* `walk_unfollowed_of_possiblyNew`: a walk to a place where a file may be made ends, if it does not
  follow its last name, at that place or at a link.
-/

import ExportManifest.Proofs.FileTree.Entries

namespace ExportManifest.FileTree

/-! ### One name -/

/-- What a walk does at a name, before it looks up any entry. -/
inductive Stride
  | refused (error : SystemError)
  | goes (there : Location)
  | looks (place : Location)

/-- The stride that a name asks for. -/
def stride (tree : FileTree) (here : Location) (name : Text) : Stride :=
  if !tree.isDirectory here then .refused .notDirectory
  else if name = Path.here then .goes here
  else if name = Path.above then .goes here.dropLast
  else if nameLimit < Utf8.size name then .refused .nameTooLong
  else .looks (here ++ [name])

/-- Goes on with what a link in a directory holds, and the names behind it. -/
def follow (tree : FileTree) (ending : Ending) (here : Location) (target : Text)
    (rest : List Text) : Nat → Except SystemError Location
  | 0 => .error .linkLoop
  | links + 1 =>
    tree.walk ending links ((Path.ofText target).start here) ((Path.ofText target).steps ++ rest)

theorem walk_nil (tree : FileTree) (ending : Ending) (links : Nat) (here : Location) :
    tree.walk ending links here [] = .ok here := by
  cases links <;> rfl

/-- **One name of a walk.** -/
theorem walk_cons (tree : FileTree) (ending : Ending) (links : Nat) (here : Location) (name : Text)
    (rest : List Text) :
    tree.walk ending links here (name :: rest) =
      match tree.stride here name with
      | .refused error => .error error
      | .goes there => tree.walk ending links there rest
      | .looks place =>
        match tree.find? place with
        | none => if rest.isEmpty && ending != .existing then .ok place else .error .noEntry
        | some (.link target) =>
          if rest.isEmpty && ending == .unfollowed then .ok place
          else tree.follow ending here target rest links
        | some _ => tree.walk ending links place rest := by
  cases links <;>
  · rw [walk, walkWith, stride]
    split
    · rfl
    · split
      · rfl
      · split
        · rfl
        · split
          · rfl
          · simp only
            rcases tree.find? (here ++ [name]) with _ | ⟨_ | _ | _⟩ <;> rfl

/-- **The induction of walks**: a fact about the rest of the names, and about any names with fewer
links allowed, carries over to one name more. -/
theorem walkInduction {motive : Nat → Location → List Text → Prop}
    (stop : ∀ links here, motive links here [])
    (next : ∀ links here name rest, (∀ there, motive links there rest) →
      (∀ fewer < links, ∀ there names, motive fewer there names) → motive links here (name :: rest))
    (links : Nat) (here : Location) (names : List Text) : motive links here names := by
  induction links using Nat.strongRecOn generalizing here names with
  | _ links fewer =>
    induction names generalizing here with
    | nil => exact stop links here
    | cons name rest ih => exact next links here name rest ih fewer

/-! ### Directories that a walk reaches -/

/-- The walk through the names ends at a directory. -/
def Reaches (tree : FileTree) (links : Nat) (here : Location) (names : List Text)
    (directory : Location) : Prop :=
  tree.walk .existing links here names = .ok directory ∧ tree.isDirectory directory = true

theorem reaches_nil {tree : FileTree} {links : Nat} {here directory : Location} :
    tree.Reaches links here [] directory ↔
      here = directory ∧ tree.isDirectory directory = true := by
  rw [Reaches, walk_nil, Except.ok.injEq]

/-- From what is no directory, no directory is reached. -/
theorem not_reaches_of_not_directory {tree : FileTree} {here : Location}
    (noDirectory : tree.isDirectory here = false) (links : Nat) (names : List Text)
    (directory : Location) : ¬ tree.Reaches links here names directory := by
  cases names with
  | nil =>
    rw [reaches_nil]
    rintro ⟨rfl, isDirectory⟩
    rw [noDirectory] at isDirectory
    cases isDirectory
  | cons name rest =>
    rintro ⟨walks, _⟩
    rw [walk_cons, stride, if_pos (by simp [noDirectory])] at walks
    cases walks

/-! ### The entries that a walk looks up -/

/-- The entries that a walk looks up, where those behind a link are given by `beyond`. -/
def trailWith (beyond : Location → List Text → List Location) (tree : FileTree) :
    Location → List Text → List Location
  | _, [] => []
  | here, name :: rest =>
    match tree.stride here name with
    | .refused _ => []
    | .goes there => trailWith beyond tree there rest
    | .looks place =>
      place ::
        match tree.find? place with
        | none => []
        | some (.link target) =>
          beyond ((Path.ofText target).start here) ((Path.ofText target).steps ++ rest)
        | some _ => trailWith beyond tree place rest

/-- The entries that a walk to something existing looks up, in order. -/
def trail (tree : FileTree) : Nat → Location → List Text → List Location
  | 0 => trailWith (fun _ _ => []) tree
  | links + 1 => trailWith (trail tree links) tree

/-- The entries looked up behind a link. -/
def trailBeyond (tree : FileTree) (here : Location) (target : Text) (rest : List Text) :
    Nat → List Location
  | 0 => []
  | links + 1 =>
    tree.trail links ((Path.ofText target).start here) ((Path.ofText target).steps ++ rest)

theorem trail_cons (tree : FileTree) (links : Nat) (here : Location) (name : Text)
    (rest : List Text) :
    tree.trail links here (name :: rest) =
      match tree.stride here name with
      | .refused _ => []
      | .goes there => tree.trail links there rest
      | .looks place =>
        place ::
          match tree.find? place with
          | none => []
          | some (.link target) => tree.trailBeyond here target rest links
          | some _ => tree.trail links place rest := by
  cases links <;>
  · rw [trail, trailWith]
    rcases tree.stride here name with _ | _ | place
    · rfl
    · rfl
    · simp only
      rcases tree.find? place with _ | ⟨_ | _ | _⟩ <;> rfl

/-- The second tree has the directories of the first, and at the given places the entries of the
first, or a file where nothing stood. -/
structure Undisturbed (before after : FileTree) (places : List Location) : Prop where
  directories : ∀ location, after.isDirectory location = before.isDirectory location
  entries : ∀ place ∈ places, after.find? place = before.find? place ∨
    (before.find? place = none ∧ ∃ bytes, after.find? place = some (.file bytes))

theorem Undisturbed.stride_eq {before after : FileTree} {places : List Location}
    (undisturbed : Undisturbed before after places) (here : Location) (name : Text) :
    after.stride here name = before.stride here name := by
  rw [stride, stride, undisturbed.directories]

theorem Undisturbed.of_subset {before after : FileTree} {places fewer : List Location}
    (undisturbed : Undisturbed before after places) (subset : ∀ place ∈ fewer, place ∈ places) :
    Undisturbed before after fewer :=
  ⟨undisturbed.directories, fun place member => undisturbed.entries place (subset place member)⟩

/-- **A walk reaches the same directory** where its trail is undisturbed. -/
theorem reaches_iff_of_undisturbed {before after : FileTree} (links : Nat) (here : Location)
    (names : List Text) (directory : Location)
    (undisturbed : Undisturbed before after (before.trail links here names)) :
    after.Reaches links here names directory ↔ before.Reaches links here names directory := by
  induction links, here, names using walkInduction with
  | stop links here =>
    rw [reaches_nil, reaches_nil, undisturbed.directories]
  | next links here name rest ih fewer =>
    have sameStride := undisturbed.stride_eq here name
    have sameDirectory := undisturbed.directories directory
    rw [trail_cons] at undisturbed
    unfold Reaches at ih fewer ⊢
    rw [walk_cons, walk_cons, sameStride]
    generalize before.stride here name = stride at undisturbed ⊢
    rcases stride with error | there | place
    · simp
    · exact ih there undisturbed
    · simp only at undisturbed ⊢
      rcases undisturbed.entries place (by simp) with same | ⟨absent, bytes, file⟩
      · have tail := undisturbed.of_subset fun other => List.mem_cons_of_mem place
        rw [same]
        generalize before.find? place = found at tail ⊢
        rcases found with _ | ⟨bytes | _ | target⟩
        · simp
        · exact ih place tail
        · exact ih place tail
        · cases links with
          | zero => simp [follow]
          | succ links =>
            simp only [trailBeyond] at tail
            simpa [follow] using fewer links (by omega) _ _ tail
      · -- A file that stands in the way ends the walk before any directory.
        rw [absent, file]
        have blocked := not_reaches_of_not_directory (isDirectory_eq_false_of_file file) links rest
          directory
        unfold Reaches at blocked
        simp [blocked]

/-! ### Names that stay where they are -/

/-- The names without `.`. -/
def withoutDots (names : List Text) : List Text :=
  names.filter fun name => name ≠ Path.here

/-- A first name that two walks share leaves the comparison to what they still have to go: the rest
of the names, or what a link holds and then the rest. -/
theorem reaches_cons_congr {tree : FileTree} {links : Nat} {here directory : Location} {name : Text}
    {rest other : List Text}
    (later : ∀ there, tree.Reaches links there rest directory ↔
      tree.Reaches links there other directory)
    (beyond : ∀ fewer < links, ∀ there names, tree.Reaches fewer there (names ++ rest) directory ↔
      tree.Reaches fewer there (names ++ other) directory) :
    tree.Reaches links here (name :: rest) directory ↔
      tree.Reaches links here (name :: other) directory := by
  unfold Reaches at later beyond ⊢
  rw [walk_cons, walk_cons]
  rcases tree.stride here name with error | there | place
  · rfl
  · exact later there
  · simp only
    rcases tree.find? place with _ | ⟨bytes | _ | target⟩
    · simp
    · exact later place
    · exact later place
    · cases links with
      | zero => simp [follow]
      | succ links => simpa [follow] using beyond links (by omega) _ (Path.ofText target).steps

theorem reaches_here_cons {tree : FileTree} {links : Nat} {here directory : Location}
    {rest : List Text} :
    tree.Reaches links here (Path.here :: rest) directory ↔
      tree.Reaches links here rest directory := by
  by_cases isDirectory : tree.isDirectory here = true
  · rw [Reaches, walk_cons, stride, if_neg (by simp [isDirectory]), if_pos rfl, Reaches]
  · have blocked := not_reaches_of_not_directory (by simpa using isDirectory) links
    exact ⟨fun reached => (blocked _ _ reached).elim, fun reached => (blocked _ _ reached).elim⟩

/-- A walk to a directory may leave out any `.` behind its first names. -/
theorem reaches_append_withoutDots {tree : FileTree} {directory : Location} (links : Nat)
    (here : Location) (names : List Text) :
    ∀ front back, names = front ++ back →
      (tree.Reaches links here names directory ↔
        tree.Reaches links here (front ++ withoutDots back) directory) := by
  induction links, here, names using walkInduction with
  | stop links here =>
    intro front back split
    obtain ⟨rfl, rfl⟩ := List.append_eq_nil_iff.mp split.symm
    rfl
  | next links here name rest ih fewer =>
    -- What is left of two lists with the same first name is again a pair of this kind.
    have shared : ∀ front back, rest = front ++ back →
        (tree.Reaches links here (name :: rest) directory ↔
          tree.Reaches links here (name :: (front ++ withoutDots back)) directory) := by
      intro front back split
      refine reaches_cons_congr (fun there => ih there front back split) ?_
      intro less small there names
      rw [← List.append_assoc]
      exact fewer less small there _ (names ++ front) back (by rw [split, List.append_assoc])
    intro front back split
    cases front with
    | cons first front =>
      obtain ⟨rfl, others⟩ := List.cons.inj split
      exact shared front back others
    | nil =>
      rw [List.nil_append] at split ⊢
      subst split
      by_cases dot : name = Path.here
      · rw [withoutDots, List.filter_cons_of_neg (by simp [dot]), dot, reaches_here_cons]
        exact ih here [] rest rfl
      · rw [withoutDots, List.filter_cons_of_pos (by simp [dot])]
        exact shared [] rest rfl

/-- **The names `.` on the way to a directory can be left out.** -/
theorem reaches_withoutDots {tree : FileTree} {links : Nat} {here directory : Location}
    {names : List Text} :
    tree.Reaches links here names directory ↔
      tree.Reaches links here (withoutDots names) directory :=
  reaches_append_withoutDots links here names [] names rfl

/-! ### The last name -/

/-- A name that is looked up: neither `.` nor `..`. -/
structure IsEntryName (name : Text) : Prop where
  notHere : name ≠ Path.here
  notAbove : name ≠ Path.above

theorem stride_entryName {tree : FileTree} {here : Location} {name : Text}
    (proper : IsEntryName name) (isDirectory : tree.isDirectory here = true) :
    tree.stride here name =
      if nameLimit < Utf8.size name then .refused .nameTooLong else .looks (here ++ [name]) := by
  rw [stride, if_neg (by simp [isDirectory]), if_neg proper.notHere, if_neg proper.notAbove]

theorem walk_unfollowed_entryName {tree : FileTree} {last : Text} (proper : IsEntryName last)
    {links : Nat} {here location : Location} :
    tree.walk .unfollowed links here [last] = .ok location ↔
      tree.isDirectory here = true ∧ Utf8.size last ≤ nameLimit ∧ location = here ++ [last] := by
  by_cases isDirectory : tree.isDirectory here = true
  · by_cases long : nameLimit < Utf8.size last
    · rw [walk_cons, stride_entryName proper isDirectory, if_pos long]
      simp only [reduceCtorEq, false_iff]
      rintro ⟨_, fits, _⟩
      omega
    · -- Whatever stands under the last name, a walk that does not follow it stops there.
      have lands : tree.walk .unfollowed links here [last] = .ok (here ++ [last]) := by
        rw [walk_cons, stride_entryName proper isDirectory, if_neg long]
        simp only
        rcases tree.find? (here ++ [last]) with _ | ⟨bytes | _ | target⟩ <;> simp [walk_nil]
      rw [lands, Except.ok.injEq]
      exact ⟨fun same => ⟨isDirectory, by omega, same.symm⟩, fun both => both.2.2.symm⟩
  · rw [walk_cons, stride, if_pos (by simpa using isDirectory)]
    simp [isDirectory]

/-- **An entry is found by its name in the directory that the names before it reach**, whatever
stands there. -/
theorem walk_unfollowed_snoc {tree : FileTree} {last : Text} (proper : IsEntryName last)
    {location : Location} (links : Nat) (here : Location) (names : List Text) :
    tree.walk .unfollowed links here (names ++ [last]) = .ok location ↔
      ∃ directory, tree.Reaches links here names directory ∧
        Utf8.size last ≤ nameLimit ∧ location = directory ++ [last] := by
  induction links, here, names using walkInduction with
  | stop links here =>
    rw [List.nil_append, walk_unfollowed_entryName proper]
    simp only [reaches_nil]
    constructor
    · rintro ⟨isDirectory, fits, same⟩
      exact ⟨here, ⟨rfl, isDirectory⟩, fits, same⟩
    · rintro ⟨_, ⟨rfl, isDirectory⟩, fits, same⟩
      exact ⟨isDirectory, fits, same⟩
  | next links here name rest ih fewer =>
    unfold Reaches at ih fewer ⊢
    rw [List.cons_append, walk_cons]
    simp only [walk_cons tree .existing]
    rcases tree.stride here name with error | there | place
    · simp
    · exact ih there
    · simp only
      rcases tree.find? place with _ | ⟨bytes | _ | target⟩
      · simp
      · exact ih place
      · exact ih place
      · cases links with
        | zero => simp [follow]
        | succ links =>
          have beyond := fewer links (by omega) ((Path.ofText target).start here)
            ((Path.ofText target).steps ++ rest)
          rw [List.append_assoc] at beyond
          simpa [follow] using beyond

/-- A place where a file may be made is what the path names, unless the path names a link. -/
theorem walk_unfollowed_of_possiblyNew {tree : FileTree} {location : Location} (links : Nat)
    (here : Location) (names : List Text)
    (walks : tree.walk .possiblyNew links here names = .ok location) :
    ∃ named, tree.walk .unfollowed links here names = .ok named ∧
      (named = location ∨ ∃ target, tree.find? named = some (.link target)) := by
  induction links, here, names using walkInduction with
  | stop links here =>
    rw [walk_nil] at walks
    exact ⟨here, walk_nil .., Or.inl (Except.ok.inj walks)⟩
  | next links here name rest ih fewer =>
    rw [walk_cons] at walks
    rw [walk_cons]
    generalize tree.stride here name = stride at walks ⊢
    rcases stride with error | there | place
    · cases walks
    · exact ih there walks
    · simp only at walks ⊢
      cases found : tree.find? place with
      | none =>
        rw [found] at walks
        exact ⟨location, walks, Or.inl rfl⟩
      | some entry =>
        rw [found] at walks
        cases entry with
        | file bytes => exact ih place walks
        | directory => exact ih place walks
        | link target =>
          by_cases ends : rest.isEmpty = true
          · exact ⟨place, by simp [ends], Or.inr ⟨target, found⟩⟩
          · cases links with
            | zero => simp [follow] at walks
            | succ links =>
              have walksOn : tree.walk .possiblyNew links ((Path.ofText target).start here)
                  ((Path.ofText target).steps ++ rest) = .ok location := by
                simpa [follow] using walks
              simpa [follow, ends] using fewer links (by omega) _ _ walksOn

/-! ### Parents and named entries -/

/-- The names on the way to the directory that the file name of a path stands in. -/
def parentNames (path : Text) : List Text :=
  (Path.ofText path).properNames.dropLast

/-- The directory that the file name of a path stands in. -/
def parent? (tree : FileTree) (path : Text) : Option Location :=
  match tree.walk .existing linkLimit ((Path.ofText path).start tree.workDirectory)
    (parentNames path) with
  | .ok directory => if tree.isDirectory directory then some directory else none
  | .error _ => none

/-- The entries that are looked up on the way to the directory of a path's file name. -/
def parentTrail (tree : FileTree) (path : Text) : List Location :=
  tree.trail linkLimit ((Path.ofText path).start tree.workDirectory) (parentNames path)

/-- The location of the entry that a path names: its file name in the directory it stands in. -/
def namedLocation? (tree : FileTree) (path : Text) : Option Location :=
  match (Path.ofText path).fileName?, tree.parent? path with
  | some name, some directory => some (directory ++ [name])
  | _, _ => none

theorem parent?_eq_some_iff {tree : FileTree} {path : Text} {directory : Location} :
    tree.parent? path = some directory ↔
      tree.Reaches linkLimit ((Path.ofText path).start tree.workDirectory) (parentNames path)
        directory := by
  unfold parent? Reaches
  cases tree.walk .existing linkLimit ((Path.ofText path).start tree.workDirectory)
    (parentNames path) with
  | error error => simp
  | ok found =>
    by_cases isDirectory : tree.isDirectory found = true
    · simp only [isDirectory, if_true, Option.some.injEq, Except.ok.injEq]
      exact ⟨fun same => ⟨same, same ▸ isDirectory⟩, fun both => both.1⟩
    · simp only [isDirectory, Bool.false_eq_true, if_false, reduceCtorEq, Except.ok.injEq,
        false_iff]
      rintro ⟨rfl, same⟩
      exact isDirectory same

/-- The parent of a path is the same where the way to it is undisturbed. -/
theorem parent?_eq_of_undisturbed {before after : FileTree} {path : Text}
    (start : after.workDirectory = before.workDirectory)
    (undisturbed : Undisturbed before after (before.parentTrail path)) :
    after.parent? path = before.parent? path := by
  apply Option.ext
  intro directory
  rw [parent?_eq_some_iff, parent?_eq_some_iff, start]
  exact reaches_iff_of_undisturbed linkLimit _ _ directory undisturbed

theorem namedLocation?_congr {before after : FileTree} {path : Text}
    (same : after.parent? path = before.parent? path) :
    after.namedLocation? path = before.namedLocation? path := by
  rw [namedLocation?, namedLocation?, same]

end ExportManifest.FileTree
