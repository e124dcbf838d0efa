/-
**Publications that interleave.**

Any number of publications share one tree and take their steps in any order. A `System` is the tree,
the phase of each publication, and the order in which their renamings happened. Its temporary files
are `Apart`: no two are at one place, nothing stood there at the start, none is an output, and no
output is looked up on the way to the parent of an output.

* `Consistent`: **the invariant**, which says of every entry what it is: an output is what it was or
  what was renamed over it last, a temporary file goes with its phase, and the rest is as it was.
* `consistent_step`, `consistent_run`: every step keeps it, and so does every run.
* `Publication.schedule`: the steps of a publication that nothing disturbs, and
  `leads_publishVia`: it follows them.
* `outputs_never_torn`: no output is ever anything but its old entry or the complete bytes of the
  last publication that was renamed over it, and finished publications leave nothing else behind.
-/

import ExportManifest.Proofs.FileTree.Steps

namespace ExportManifest

open FileTree Publication

/-! ### Systems of publications -/

/-- A tree that publications work on: the phase of each, and those that were renamed over their
outputs, the latest first. -/
structure System (ι : Type) where
  tree : FileTree
  phase : ι → Phase
  renamed : List ι

namespace System

variable {ι : Type}

/-- The system before any step. -/
def initial (tree : FileTree) : System ι :=
  { tree, phase := fun _ => .waiting, renamed := [] }

/-- The publication that was renamed last over a place, by what the outputs name at the start. -/
def latest? (system : System ι) (start : FileTree) (publications : ι → Publication)
    (location : Location) : Option ι :=
  system.renamed.find? fun who =>
    start.namedLocation? (publications who).path == some location

variable [DecidableEq ι]

/-- The system after a publication has come to a phase with a tree. -/
def moved (system : System ι) (who : ι) (phase : Phase) (tree : FileTree) : System ι :=
  { tree
    phase := fun other => if other = who then phase else system.phase other
    renamed := if phase = .published then who :: system.renamed else system.renamed }

/-- The system after a step of one publication, if that takes it. -/
def step? (publications : ι → Publication) (system : System ι) (who : ι) (action : Action) :
    Option (System ι) :=
  ((publications who).step? system.tree (system.phase who) action).map fun next =>
    system.moved who next.1 next.2

/-- The system after steps in the given order. -/
def run? (publications : ι → Publication) : List (ι × Action) → System ι → Option (System ι)
  | [], system => some system
  | (who, action) :: later, system =>
    (system.step? publications who action).bind (run? publications later)

end System

/-! ### The invariant -/

/-- **Temporary files are apart**: nothing stood at their places, no two share a place, none is an
output, and the way to the parent of an output leads through no output. -/
structure Apart {ι : Type} (start : FileTree) (publications : ι → Publication) : Prop where
  absent : ∀ who file, (publications who).temporary start = .ok file → start.find? file = none
  distinct : ∀ who other, who ≠ other → ∀ file, (publications who).temporary start = .ok file →
    (publications other).temporary start ≠ .ok file
  unnamed : ∀ who other file, (publications who).temporary start = .ok file →
    start.namedLocation? (publications other).path ≠ some file
  parents : ∀ who other location, start.namedLocation? (publications who).path = some location →
    location ∉ start.parentTrail (publications other).path

/-- What each entry is while publications are under way. -/
structure Consistent {ι : Type} (start : FileTree) (publications : ι → Publication)
    (system : System ι) : Prop where
  workDirectory : system.tree.workDirectory = start.workDirectory
  directories : ∀ location, system.tree.isDirectory location = start.isDirectory location
  outputs : ∀ who location, start.namedLocation? (publications who).path = some location →
    system.tree.find? location =
      match system.latest? start publications location with
      | some last => some (.file (publications last).bytes)
      | none => start.find? location
  standings : ∀ who, Standing (publications who) start system.tree (system.phase who)
  elsewhere : ∀ location, (∀ who, (publications who).temporary start ≠ .ok location) →
    (∀ who, start.namedLocation? (publications who).path ≠ some location) →
    system.tree.find? location = start.find? location
  history : ∀ who, who ∈ system.renamed ↔ system.phase who = .published

section

variable {ι : Type} {start : FileTree} {publications : ι → Publication}

theorem consistent_initial (apart : Apart start publications) :
    Consistent start publications (.initial start) where
  workDirectory := rfl
  directories _ := rfl
  outputs _ _ _ := rfl
  standings who := .idle _ rfl (apart.absent who)
  elsewhere _ _ _ := rfl
  history _ := by simp [System.initial]

/-- The way to the parent of an output is undisturbed: on it are no outputs, and a temporary file
is at most a new file there. -/
theorem Consistent.undisturbed {system : System ι}
    (consistent : Consistent start publications system) (apart : Apart start publications)
    (who : ι) :
    Undisturbed start system.tree (start.parentTrail (publications who).path) := by
  refine ⟨consistent.directories, fun place member => ?_⟩
  by_cases held : ∃ other, (publications other).temporary start = .ok place
  · obtain ⟨other, temporary⟩ := held
    have before := apart.absent other place temporary
    rcases (consistent.standings other).entry temporary with absent | file
    · exact Or.inl (absent.trans before.symm)
    · exact Or.inr ⟨before, file⟩
  · refine Or.inl (consistent.elsewhere place ?_ ?_)
    · intro other temporary
      exact held ⟨other, temporary⟩
    · intro other named
      exact apart.parents other who place named member

theorem Consistent.sameParent {system : System ι}
    (consistent : Consistent start publications system) (apart : Apart start publications)
    (who : ι) :
    system.tree.parent? (publications who).path = start.parent? (publications who).path :=
  parent?_eq_of_undisturbed consistent.workDirectory (consistent.undisturbed apart who)

/-! ### One step -/

variable [DecidableEq ι]

/-- A renaming over a place is the last one there, and nothing else changes which one that is. -/
theorem System.latest?_moved (system : System ι) (who : ι) (phase : Phase) (tree : FileTree)
    (location : Location) :
    (system.moved who phase tree).latest? start publications location =
      if phase = .published ∧ start.namedLocation? (publications who).path = some location
      then some who else system.latest? start publications location := by
  unfold latest? moved
  simp only
  by_cases published : phase = .published
  · rw [if_pos published]
    by_cases named : start.namedLocation? (publications who).path = some location
    · rw [if_pos ⟨published, named⟩, List.find?_cons_of_pos (by simpa using named)]
    · rw [if_neg fun both => named both.2, List.find?_cons_of_neg (by simpa using named)]
  · rw [if_neg published, if_neg fun both => published both.1]

/-- **A step of one publication keeps the invariant.** -/
theorem Consistent.moved {system : System ι} (consistent : Consistent start publications system)
    (apart : Apart start publications) {who : ι} {phase : Phase} {tree : FileTree}
    (unfinished : system.phase who ≠ .published)
    (moves : Moves (publications who) start system.tree tree phase) :
    Consistent start publications (system.moved who phase tree) where
  workDirectory := moves.workDirectory.trans consistent.workDirectory
  directories location := (moves.directories location).trans (consistent.directories location)
  outputs other location named := by
    have unwritten : (publications who).temporary start ≠ .ok location := fun temporary =>
      apart.unnamed who other location temporary named
    rw [System.latest?_moved]
    by_cases renames : phase = .published ∧
        start.namedLocation? (publications who).path = some location
    · rw [if_pos renames]
      obtain ⟨target, known, content⟩ := moves.target renames.1
      rw [renames.2, Option.some.injEq] at known
      subst known
      exact content
    · -- No renaming over this place: the step does not touch it, and its last one stays the last.
      rw [if_neg renames, ← consistent.outputs other location named]
      exact moves.elsewhere location unwritten fun published same => renames ⟨published, same⟩
  standings other := by
    show Standing (publications other) start tree (if other = who then phase else _)
    by_cases same : other = who
    · rw [if_pos same, same]
      exact moves.standing
    · rw [if_neg same]
      refine (consistent.standings other).congr fun file temporary => ?_
      refine moves.elsewhere file (apart.distinct other who same file temporary) fun _ => ?_
      exact apart.unnamed other who file temporary
  elsewhere location untouched unnamed := by
    refine Eq.trans ?_ (consistent.elsewhere location untouched unnamed)
    exact moves.elsewhere location (untouched who) fun _ => unnamed who
  history other := by
    show other ∈ (if phase = .published then who :: system.renamed else system.renamed) ↔
      (if other = who then phase else system.phase other) = .published
    have before := consistent.history other
    by_cases same : other = who
    · subst same
      have absent : other ∉ system.renamed := fun member => unfinished (before.mp member)
      by_cases published : phase = .published
      · simp [published]
      · simp [published, absent]
    · by_cases published : phase = .published
      · simp [published, same, before]
      · simp [published, same, before]

/-- A publication that was renamed takes no step. -/
theorem Publication.step?_published (publication : Publication) (tree : FileTree)
    (action : Action) : publication.step? tree .published action = none := by
  cases action <;> rfl

theorem consistent_step {system after : System ι} {who : ι} {action : Action}
    (apart : Apart start publications) (consistent : Consistent start publications system)
    (steps : system.step? publications who action = some after) :
    Consistent start publications after := by
  unfold System.step? at steps
  obtain ⟨⟨phase, tree⟩, moved, rfl⟩ := Option.map_eq_some_iff.mp steps
  have unfinished : system.phase who ≠ .published := by
    intro published
    rw [published, Publication.step?_published] at moved
    cases moved
  refine consistent.moved apart unfinished ?_
  exact step_moves (consistent.sameParent apart who)
    (fun file temporary => apart.unnamed who who file temporary) (consistent.standings who) moved

/-- **Every run keeps the invariant**, whatever the order of its steps and wherever it stops. -/
theorem consistent_run {system after : System ι} {schedule : List (ι × Action)}
    (apart : Apart start publications) (consistent : Consistent start publications system)
    (runs : System.run? publications schedule system = some after) :
    Consistent start publications after := by
  induction schedule generalizing system with
  | nil =>
    cases runs
    exact consistent
  | cons first later ih =>
    obtain ⟨who, action⟩ := first
    obtain ⟨next, steps, rest⟩ := Option.bind_eq_some_iff.mp runs
    exact ih (consistent_step apart consistent steps) rest

end

/-! ### A publication alone -/

namespace Publication

variable {publication : Publication} {tree : FileTree} {file : Location}

/-- What follows the writing of a temporary file. It is brought to the device and renamed, and
removed where renaming is refused; where its writing was cut short, it is removed. -/
def closing (publication : Publication) (filled : FileTree) : Writing → List Action
  | .whole =>
    .sync :: .rename :: if (publication.rename filled).1 = .published then [] else [.remove]
  | .cutShort _ fault => [.refuse fault, .remove]

/-- **The steps of a publication that nothing disturbs**, by how writing goes and by the parts in
which the system takes the bytes: the temporary file is created, written part by part and closed. -/
def schedule (publication : Publication) (tree : FileTree) (parts : List (List UInt8))
    (writing : Writing) : List Action :=
  match publication.create tree with
  | (.writing file _, created) =>
    let writes := parts.map fun part => .write part.length
    .create :: (writes ++ publication.closing (created.append file parts.flatten) writing)
  | _ => [.create]

/-- Steps of a publication alone lead from a system to an ending and the tree then. -/
def Leads (publication : Publication) (actions : List Action) (system : System Unit)
    (ending : Except FileFault Unit × FileTree) : Prop :=
  ∃ after, System.run? (fun _ => publication) (actions.map fun action => ((), action)) system =
      some after ∧
    (after.phase ()).ending? = some ending.1 ∧ after.tree = ending.2

theorem leads_ended {system : System Unit} {ending : Except FileFault Unit}
    (ended : (system.phase ()).ending? = some ending) :
    publication.Leads [] system (ending, system.tree) :=
  ⟨system, rfl, ended, rfl⟩

theorem leads_step {system : System Unit} {phase : Phase} {action : Action} {later : List Action}
    {ending : Except FileFault Unit × FileTree}
    (steps : publication.step? system.tree (system.phase ()) action = some (phase, tree))
    (leads : publication.Leads later (system.moved () phase tree) ending) :
    publication.Leads (action :: later) system ending := by
  obtain ⟨after, runs, ended, final⟩ := leads
  refine ⟨after, ?_, ended, final⟩
  rw [List.map_cons, System.run?, System.step?, steps]
  exact runs

/-- **Writing in parts**: after them the temporary file holds the bytes of all parts together, and
what follows starts from there. -/
theorem leads_parts {written rest : List UInt8} {later : List Action}
    {ending : Except FileFault Unit × FileTree} (absent : tree.find? file = none)
    (parts : List (List UInt8)) {system : System Unit}
    (writes : system.phase () = .writing file (parts.flatten ++ rest))
    (filled : system.tree = tree.put file (.file written))
    (leads : ∀ after : System Unit, after.phase () = .writing file rest →
      after.tree = tree.put file (.file (written ++ parts.flatten)) →
        publication.Leads later after ending) :
    publication.Leads ((parts.map fun part => .write part.length) ++ later) system ending := by
  induction parts generalizing system written with
  | nil => exact leads system writes (by simpa using filled)
  | cons part parts ih =>
    rw [List.flatten_cons, List.append_assoc] at writes
    have steps : publication.step? system.tree (system.phase ()) (.write part.length) =
        some (.writing file (parts.flatten ++ rest), tree.put file (.file (written ++ part))) := by
      rw [writes, filled, step?, append_put tree (ne_root_of_find?_none absent), List.drop_left,
        List.take_left]
    refine leads_step steps (ih rfl rfl ?_)
    intro after writes filled
    rw [List.append_assoc, ← List.flatten_cons] at filled
    exact leads after writes filled

/-- The temporary file is found again once it is made. -/
theorem temporary_put (place : publication.temporary tree = .ok file)
    (absent : tree.find? file = none) (written : List UInt8) :
    publication.temporary (tree.put file (.file written)) = .ok file :=
  (temporary_congr (parent?_put_file absent written publication.path) file).mpr place

/-- Removing the temporary file gives back the tree in which it was made. -/
theorem remove_put (place : publication.temporary tree = .ok file)
    (absent : tree.find? file = none) (written : List UInt8) :
    publication.remove (tree.put file (.file written)) = tree := by
  have noDirectory := isDirectory_eq_false_of_none absent
  unfold remove
  rw [temporary_put place absent]
  simp only
  rw [isDirectory_put_file noDirectory, noDirectory, if_neg (by simp), erase_put absent]

/-- A publication that is to remove its temporary file ends with the tree in which that was made. -/
theorem leads_failing {system : System Unit} {fault : FileFault} {written : List UInt8}
    (place : publication.temporary tree = .ok file) (absent : tree.find? file = none)
    (failing : system.phase () = .failing fault)
    (filled : system.tree = tree.put file (.file written)) :
    publication.Leads [.remove] system (.error fault, tree) := by
  have steps : publication.step? system.tree (system.phase ()) .remove =
      some (.failed fault, tree) := by
    rw [failing, filled, step?, remove_put place absent]
  exact leads_step steps (leads_ended rfl)

/-- Renaming the temporary file, where it was made in a tree. -/
theorem rename_put (place : publication.temporary tree = .ok file)
    (absent : tree.find? file = none) (written : List UInt8) :
    publication.rename (tree.put file (.file written)) =
      match (tree.put file (.file written)).rename file publication.path with
      | .error fault => (.failing fault, tree.put file (.file written))
      | .ok renamed => (.published, renamed) := by
  have found := temporary_put place absent written
  unfold rename
  generalize publication.temporary (tree.put file (.file written)) = place at found ⊢
  subst found
  rfl

/-- A publication whose temporary file is written as far as that went, and is to be closed. -/
theorem leads_closing {system : System Unit} (place : publication.temporary tree = .ok file)
    (absent : tree.find? file = none) (writing : Writing) {rest : List UInt8}
    (writes : system.phase () = .writing file rest)
    (complete : (writing.filling publication.bytes).bytes ++ rest = publication.bytes)
    (filled : system.tree = tree.put file (.file (writing.filling publication.bytes).bytes)) :
    publication.Leads (publication.closing system.tree writing) system
      (match (writing.filling publication.bytes).fault? with
        | some fault => (.error fault, tree)
        | none =>
          match system.tree.rename file publication.path with
          | .error fault => (.error fault, tree)
          | .ok renamed => (.ok (), renamed)) := by
  cases writing with
  | cutShort count fault =>
    have refuses : publication.step? system.tree (system.phase ()) (.refuse fault) =
        some (.failing fault, system.tree) := by
      rw [writes]
      cases rest <;> rfl
    exact leads_step refuses (leads_failing place absent rfl filled)
  | whole =>
    have allBytes : system.tree = tree.put file (.file publication.bytes) := filled
    obtain rfl : rest = [] := List.append_right_eq_self.mp complete
    have syncs : publication.step? system.tree (system.phase ()) .sync =
        some (.synced, system.tree) := by
      rw [writes]
      rfl
    refine leads_step syncs ?_
    have renames := rename_put place absent publication.bytes
    have steps : publication.step? system.tree .synced .rename =
        some (publication.rename system.tree) := rfl
    rw [← allBytes] at renames
    show publication.Leads (.rename :: if (publication.rename system.tree).1 = _ then _ else _) _
      (match system.tree.rename file publication.path with
        | .error fault => (.error fault, tree)
        | .ok renamed => (.ok (), renamed))
    cases ends : system.tree.rename file publication.path with
    | error fault =>
      rw [ends] at renames
      rw [renames] at steps ⊢
      exact leads_step steps (leads_failing place absent rfl allBytes)
    | ok renamed =>
      rw [ends] at renames
      rw [renames] at steps ⊢
      exact leads_step steps (leads_ended rfl)

/-- **A publication that nothing disturbs follows its schedule**, in whatever parts its bytes are
taken, and ends as that does. -/
theorem leads_publishVia
    (absent : ∀ file, publication.temporary tree = .ok file → tree.find? file = none)
    (parts : List (List UInt8)) (writing : Writing)
    (taken : parts.flatten = (writing.filling publication.bytes).bytes) :
    publication.Leads (publication.schedule tree parts writing) (.initial tree)
      (tree.publishVia publication.path publication.tag writing publication.bytes) := by
  -- The parts take the bytes that reach the file, and `rest` are those that do not.
  obtain ⟨rest, complete⟩ := writing.filling_prefix publication.bytes
  rw [publishVia, publishWith_eq, schedule]
  have steps : publication.step? tree .waiting .create = some (publication.create tree) := rfl
  unfold create at steps ⊢
  cases made : temporaryPath? publication.path publication.tag with
  | none =>
    rw [made] at steps
    exact leads_step steps (leads_ended rfl)
  | some path =>
    rw [made] at steps
    simp only at steps ⊢
    cases creates : tree.create path with
    | error fault =>
      rw [creates] at steps
      exact leads_step steps (leads_ended rfl)
    | ok created =>
      obtain ⟨file, filled⟩ := created
      rw [creates] at steps
      obtain ⟨place, free, rfl⟩ := create_temporary made absent creates
      simp only
      rw [← taken, append_put tree (ne_root_of_find?_none free), List.nil_append, erase_put free]
      have starts : ((System.initial tree).moved () (.writing file publication.bytes)
          (tree.put file (.file []))).phase () = .writing file (parts.flatten ++ rest) := by
        rw [taken, complete]
        rfl
      refine leads_step steps (leads_parts free parts starts rfl ?_)
      intro after writes filled
      rw [List.nil_append] at filled
      rw [← filled]
      exact leads_closing place free writing writes complete (taken ▸ filled)

end Publication

/-! ### No output is torn -/

/-- **No output is ever torn or mixed.** Each publication, alone, follows its schedule, in whatever
parts its bytes are taken. Let any number of them, apart from one another, take their steps in any
order and stop anywhere: the entry that an output names is then the one of the start, or a file of
all the bytes of the publication that was renamed over it last. Once all have ended, no temporary
file is left, and every entry that is no output is as at the start. -/
theorem outputs_never_torn {ι : Type} [DecidableEq ι] (start : FileTree)
    (publications : ι → Publication) (apart : Apart start publications) :
    (∀ who parts writing,
      parts.flatten = (writing.filling (publications who).bytes).bytes →
        (publications who).Leads ((publications who).schedule start parts writing) (.initial start)
          (start.publishVia (publications who).path (publications who).tag writing
            (publications who).bytes)) ∧
    ∀ (schedule : List (ι × Action)) (after : System ι),
      System.run? publications schedule (.initial start) = some after →
        (∀ who location, start.namedLocation? (publications who).path = some location →
          after.tree.find? location =
            match after.latest? start publications location with
            | some last => some (.file (publications last).bytes)
            | none => start.find? location) ∧
        (∀ who, who ∈ after.renamed ↔ after.phase who = .published) ∧
        ((∀ who, (after.phase who).ending?.isSome = true) →
          (∀ who file, (publications who).temporary start = .ok file →
            after.tree.find? file = none) ∧
          ∀ location, (∀ who, start.namedLocation? (publications who).path ≠ some location) →
            after.tree.find? location = start.find? location) := by
  refine ⟨fun who parts writing => leads_publishVia (apart.absent who) parts writing, ?_⟩
  intro schedule after runs
  have consistent := consistent_run apart (consistent_initial apart) runs
  refine ⟨consistent.outputs, consistent.history, fun ended => ?_⟩
  have removed : ∀ who file, (publications who).temporary start = .ok file →
      after.tree.find? file = none := fun who file place =>
    (consistent.standings who).absent (Phase.hasFile_of_ended (ended who)) place
  refine ⟨removed, fun location unnamed => ?_⟩
  by_cases held : ∃ who, (publications who).temporary start = .ok location
  · obtain ⟨who, place⟩ := held
    rw [removed who location place, apart.absent who location place]
  · exact consistent.elsewhere location (fun who place => held ⟨who, place⟩) unnamed

/-- A directory, a link to it, and a file in it. -/
def linkedDirectory : FileTree :=
  { entries := [(["d".toList], .directory), (["l".toList], .link "d".toList),
      (["d".toList, "out".toList], .file [0])]
    workDirectory := [] }

/-- Two publications to that file, one of them through the link. -/
def rivals (linked : Bool) : Publication :=
  { path := if linked then "l/out".toList else "d/out".toList
    tag := if linked then "1".toList else "2".toList
    bytes := if linked then [1, 2] else [3, 4, 5]
    plainTag := by cases linked <;> decide }

/-- Where each of them has its temporary file. -/
def rivalPlace (linked : Bool) : Location :=
  ["d".toList, if linked then ".out.1.tmp".toList else ".out.2.tmp".toList]

theorem rivals_temporary (linked : Bool) :
    (rivals linked).temporary linkedDirectory = .ok (rivalPlace linked) := by
  cases linked <;> rfl

theorem rivals_named (linked : Bool) :
    linkedDirectory.namedLocation? (rivals linked).path = some ["d".toList, "out".toList] := by
  cases linked <;> decide

theorem rivals_apart : Apart linkedDirectory rivals := by
  refine ⟨?_, ?_, ?_, ?_⟩
  · intro who file place
    rw [rivals_temporary, Except.ok.injEq] at place
    subst place
    cases who <;> decide
  · intro who other different file place same
    rw [rivals_temporary, Except.ok.injEq] at place same
    have differ : ∀ who other, who ≠ other → rivalPlace other ≠ rivalPlace who := by decide
    exact differ who other different (same.trans place.symm)
  · intro who other file place
    rw [rivals_temporary, Except.ok.injEq] at place
    subst place
    rw [rivals_named]
    cases who <;> decide
  · intro who other location named
    rw [rivals_named, Option.some.injEq] at named
    subst named
    cases other <;> decide

/-- Both publications write in turns, and both rename. -/
def inTurns : List (Bool × Action) :=
  [(true, .create), (false, .create), (true, .write 1), (false, .write 2), (true, .write 1),
    (true, .sync), (true, .rename), (false, .write 1), (false, .sync), (false, .rename)]

/-- Two publications that write to one file in turns: it ends as that of the one that renamed last,
and their temporary files are gone. -/
theorem outputs_never_torn_rivals :
    Apart linkedDirectory rivals ∧
    ∃ after, System.run? rivals inTurns (.initial linkedDirectory) = some after ∧
      after.tree.find? ["d".toList, "out".toList] = some (.file [3, 4, 5]) ∧
      ∀ who, after.tree.find? (rivalPlace who) = none := by
  have course : (System.run? rivals inTurns (.initial linkedDirectory)).map
      (fun system => (system.phase true, system.phase false, system.renamed)) =
        some (.published, .published, [false, true]) := by decide +kernel
  obtain ⟨after, runs, phases⟩ := Option.map_eq_some_iff.mp course
  simp only [Prod.mk.injEq] at phases
  obtain ⟨linked, direct, renamed⟩ := phases
  obtain ⟨outputs, _, ended⟩ :=
    (outputs_never_torn linkedDirectory rivals rivals_apart).2 inTurns after runs
  have last : after.latest? linkedDirectory rivals ["d".toList, "out".toList] = some false := by
    rw [System.latest?, renamed]
    decide
  have finished : ∀ who, (after.phase who).ending?.isSome = true := by
    intro who
    cases who
    · rw [direct]
      rfl
    · rw [linked]
      rfl
  refine ⟨rivals_apart, after, runs, ?_, fun who => ?_⟩
  · rw [outputs true _ (rivals_named true), last]
    rfl
  · exact (ended finished).1 who _ (rivals_temporary who)

end ExportManifest
