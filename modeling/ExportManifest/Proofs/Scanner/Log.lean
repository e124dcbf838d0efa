/-
**The log tells the same story as the result.**

Each pass of a scan tells events of its own: the search for the macro tells the lines that mention
the attribute in vain and the line that defines the macro, and stops there; extraction tells the
lines that it skips and its totals. A run adds one event, and only once the manifest is in place.

* `NumbersOf`: the numbers of the lines that have a property; `numbersOf_filter`: how a pass counts
  them.
* `searchFrom_append`: what the search tells of lines that do not define the macro.
* `search_bound`, `search_unbound`: **what the first pass tells** of a source, by whether one of its
  lines defines the macro.
* `readFrom_events`: **what the second pass tells**: the events of its loop are those of the lines
  whose numbers it keeps.
* `Scanner.runVia_events`: a run tells what its scan tells, and that the manifest is written if and
  only if it succeeds.
* `log_tells_result`: the log of a scan and of a run, word for word, in terms of their results.
-/

import ExportManifest.Proofs.Scanner.Passes

namespace ExportManifest

/-! ### Numbers of lines -/

/-- The numbers of the lines, counted from 1, that have a property: each once, in their order. -/
structure NumbersOf (property : Text → Prop) (lines : List Text) (numbers : List Nat) : Prop where
  increasing : numbers.Pairwise (· < ·)
  mem_iff : ∀ number, number ∈ numbers ↔
    ∃ index line, number = index + 1 ∧ lines[index]? = some line ∧ property line

theorem numbersOf_filter (test : Text → Bool) (lines : List Text) :
    NumbersOf (fun line => test line = true) lines
      (((lines.zipIdx 1).filter fun numbered => test numbered.1).map Prod.snd) where
  increasing := by
    have inOrder : ((lines.zipIdx 1).map Prod.snd).Pairwise (· < ·) := by
      rw [List.zipIdx_map_snd]
      exact List.pairwise_lt_range' 1
    exact inOrder.sublist (List.filter_sublist.map Prod.snd)
  mem_iff := by
    intro number
    rw [List.mem_map]
    constructor
    · rintro ⟨⟨line, _⟩, member, rfl⟩
      obtain ⟨numbered, passes⟩ := List.mem_filter.mp member
      obtain ⟨positive, found⟩ := List.mk_mem_zipIdx_iff_le_and_getElem?_sub.mp numbered
      exact ⟨_, line, (Nat.sub_add_cancel positive).symm, found, passes⟩
    · rintro ⟨index, line, rfl, found, passes⟩
      refine ⟨(line, index + 1), List.mem_filter.mpr ⟨?_, passes⟩, rfl⟩
      exact List.mk_mem_zipIdx_iff_le_and_getElem?_sub.mpr ⟨Nat.le_add_left 1 index, found⟩

/-! ### What the search tells -/

/-- The numbers of the lines that mention the attribute, the first line having the given number. -/
def mentionsFrom (exportAttribute : Text) (number : Nat) (lines : List Text) : List Nat :=
  ((lines.zipIdx number).filter fun numbered => exportAttribute.occursIn numbered.1).map Prod.snd

theorem mentions_numbersOf (exportAttribute : Text) (lines : List Text) :
    NumbersOf (exportAttribute <:+: ·) lines (mentionsFrom exportAttribute 1 lines) := by
  have numbers := numbersOf_filter exportAttribute.occursIn lines
  simp only [Text.occursIn_iff] at numbers
  exact numbers

theorem boundMacro?_eq_some_iff {exportAttribute line name : Text} :
    boundMacro? exportAttribute line = some name ↔
      exportAttribute <:+: line ∧ Definition.name? line = some name := by
  rw [boundMacro?, Option.ite_none_right_eq_some, Text.occursIn_iff]

theorem boundMacro?_eq_none_iff {exportAttribute line : Text} :
    boundMacro? exportAttribute line = none ↔
      (exportAttribute <:+: line → Definition.name? line = none) := by
  rw [boundMacro?, ite_eq_right_iff, Text.occursIn_iff]

/-- **The search passes over lines that define nothing**: of each that mentions the attribute it
tells the number, and it goes on behind them. -/
theorem searchFrom_append {exportAttribute : Text} {earlier : List Text}
    (unbound : ∀ line ∈ earlier, boundMacro? exportAttribute line = none) (number : Nat)
    (rest : List Text) :
    Definition.searchFrom exportAttribute number (earlier ++ rest) =
      ((Definition.searchFrom exportAttribute (number + earlier.length) rest).1,
        (mentionsFrom exportAttribute number earlier).map .attributeElsewhere ++
          (Definition.searchFrom exportAttribute (number + earlier.length) rest).2) := by
  induction earlier generalizing number with
  | nil => rfl
  | cons line later ih =>
    have step := ih (fun other member => unbound other (List.mem_cons_of_mem _ member)) (number + 1)
    rw [Nat.add_assoc, Nat.add_comm 1] at step
    rw [List.cons_append, Definition.searchFrom, List.length_cons, mentionsFrom, List.zipIdx_cons,
      List.filter_cons]
    by_cases occurs : exportAttribute.occursIn line = true
    · have undefined : Definition.name? line = none :=
        boundMacro?_eq_none_iff.mp (unbound line List.mem_cons_self) (Text.occursIn_iff.mp occurs)
      rw [if_pos occurs, if_pos occurs, undefined]
      simp only
      rw [step]
      rfl
    · rw [if_neg occurs, if_neg occurs]
      exact step

/-- Without a line that defines the macro, the search tells every mention. -/
theorem search_unbound {exportAttribute : Text} {lines : List Text}
    (unbound : ∀ line ∈ lines, boundMacro? exportAttribute line = none) :
    Definition.search exportAttribute lines =
      (none, (mentionsFrom exportAttribute 1 lines).map .attributeElsewhere) := by
  have told := searchFrom_append unbound 1 []
  rw [List.append_nil, Definition.searchFrom, List.append_nil] at told
  exact told

/-- The search tells the mentions before the line that defines the macro, that line, and nothing of
the lines behind it. -/
theorem search_bound {exportAttribute line name : Text} {earlier : List Text}
    (unbound : ∀ other ∈ earlier, boundMacro? exportAttribute other = none)
    (binds : boundMacro? exportAttribute line = some name) (later : List Text) :
    Definition.search exportAttribute (earlier ++ line :: later) =
      (some name, (mentionsFrom exportAttribute 1 earlier).map .attributeElsewhere ++
        [.macroDetected (earlier.length + 1) name]) := by
  obtain ⟨occurs, defines⟩ := boundMacro?_eq_some_iff.mp binds
  have told := searchFrom_append unbound 1 (line :: later)
  rw [Definition.searchFrom, if_pos (Text.occursIn_iff.mpr occurs), defines,
    Nat.add_comm 1 earlier.length] at told
  exact told

/-! ### What extraction tells -/

/-- **Extraction tells the lines that it skips**: an event for each number that it keeps, in the
same order. -/
theorem readFrom_events (exportMacro : Text) (number : Nat) (lines : List Text) :
    (Extraction.readFrom exportMacro number lines).2 =
      (Extraction.readFrom exportMacro number lines).1.skipped.map .lineSkipped := by
  -- A line adds to both lists or to neither, and the two cases that add to neither agree.
  induction lines generalizing number with
  | nil => rfl
  | cons line later ih =>
    rw [Extraction.readFrom]
    cases exportMacro.isPrefixOf? line with
    | none => exact ih (number + 1)
    | some declaration =>
      simp only
      cases Signature.parse? declaration with
      | some signature => exact ih (number + 1)
      | none => exact congrArg (Event.lineSkipped number :: ·) (ih (number + 1))

/-! ### What a scan tells -/

namespace Scanner

variable {scanner : Scanner} {source text : Text} {version : Int64} {outcome : Outcome}
  {failure : Failure}

theorem scanText_events_ok {earlier later : List Text} {line : Text}
    (succeeds : (scanner.scanText source text version).result = .ok outcome)
    (split : text.lines = earlier ++ line :: later)
    (unbound : ∀ other ∈ earlier, boundMacro? scanner.exportAttribute other = none)
    (binds : boundMacro? scanner.exportAttribute line = some outcome.exportMacro) :
    (scanner.scanText source text version).events =
      (mentionsFrom scanner.exportAttribute 1 earlier).map .attributeElsewhere ++
        [.macroDetected (earlier.length + 1) outcome.exportMacro] ++
        outcome.skipped.map .lineSkipped ++
        [.extractionFinished outcome.exportMacro outcome.manifest.functions.length
          outcome.skipped.length] := by
  obtain ⟨_, shape⟩ := scanText_eq_ok_iff.mp succeeds
  have searched := search_bound unbound binds later
  rw [← split] at searched
  have skips := readFrom_events outcome.exportMacro 1 text.lines
  unfold scanText Extraction.read
  simp only [searched, skips]
  rw [shape]
  rfl

theorem scanText_events_error
    (fails : (scanner.scanText source text version).result = .error failure) :
    failure = .noExportMacro source scanner.exportAttribute ∧
      (scanner.scanText source text version).events =
        (mentionsFrom scanner.exportAttribute 1 text.lines).map .attributeElsewhere := by
  have result := scanText_result scanner source text version
  rw [fails] at result
  cases bound : exportMacro? scanner.exportAttribute text.lines with
  | some exportMacro =>
    rw [bound] at result
    cases result
  | none =>
    rw [bound] at result
    rw [exportMacro?_eq_findSome?, List.findSome?_eq_none_iff] at bound
    refine ⟨Except.error.inj result, ?_⟩
    unfold scanText
    simp only [search_unbound bound]

/-- The events of a scan are details. -/
theorem scanText_events_level (scanner : Scanner) (source text : Text) (version : Int64) :
    ∀ event ∈ (scanner.scanText source text version).events, event.level = .debug := by
  intro event member
  cases result : (scanner.scanText source text version).result with
  | error failure =>
    rw [(scanText_events_error result).2] at member
    obtain ⟨_, _, rfl⟩ := List.mem_map.mp member
    rfl
  | ok outcome =>
    have bound := (scanText_eq_ok_iff.mp result).1
    rw [exportMacro?_eq_findSome?] at bound
    obtain ⟨_, _, _, split, binds, unbound⟩ := List.findSome?_eq_some_iff.mp bound
    rw [scanText_events_ok result split unbound binds] at member
    simp only [List.mem_append, List.mem_map, List.mem_singleton] at member
    rcases member with ((⟨_, _, rfl⟩ | rfl) | ⟨_, _, rfl⟩) | rfl <;> rfl

/-! ### What a run tells -/

variable {tree : FileTree} {writing : FileTree.Writing} {tag output : Text}

/-- Reading a file tells nothing. -/
theorem scanFile_events (scanner : Scanner) (tree : FileTree) (source : Text) (version : Int64) :
    (scanner.scanFile tree source version).events =
      match tree.read source with
      | .ok bytes => (scanner.scanText source (Utf8.decodeLossy bytes) version).events
      | .error _ => [] := by
  unfold scanFile scanContent
  cases tree.read source <;> rfl

/-- **A run tells what its scan tells**, and at the end, if and only if it succeeds, that the
manifest is written. -/
theorem runVia_events (scanner : Scanner) (writing : FileTree.Writing) (tree : FileTree)
    (tag source output : Text) (version : Int64) :
    (scanner.runVia writing tree tag source output version).1.events =
      (scanner.scanFile tree source version).events ++
        match (scanner.runVia writing tree tag source output version).1.result with
        | .ok outcome => [.manifestWritten source output outcome.manifest.functions.length]
        | .error _ => [] := by
  unfold runVia
  simp only
  cases scanned : (scanner.scanFile tree source version).result with
  | error failure =>
    simp only [scanned]
    exact (List.append_nil _).symm
  | ok found =>
    obtain ⟨⟨_, _, finds⟩, _⟩ := scanContent_ok scanned
    simp only [Scan.written]
    cases (tree.publishVia output tag writing (scanner.fileBytes found)).1 with
    | error fault => exact (List.append_nil _).symm
    | ok _ =>
      simp only [finds.source]
      rfl

end Scanner

/-! ### The log in words -/

/-- What a log shows of an event: how much it matters, its message and its values. -/
def Event.shown (event : Event) : Level × Text × List (Text × FieldValue) :=
  (event.level, event.message, event.details)

/-- An entry of a log. -/
def logEntry (level : Level) (message : String) (values : List (String × FieldValue)) :
    Level × Text × List (Text × FieldValue) :=
  (level, message.toList, values.map fun value => (value.1.toList, value.2))

/-- **The log tells the same story as the result.** Where a scan of a text succeeds, its log has,
in this order: an entry for each line that contains the attribute and stands before the line that
defines the macro, by increasing numbers; one for that line, with its number and the macro of the
outcome; one for each skipped line of the outcome, in the same order; and one with the macro and the
totals of the outcome. Where it fails, no macro was found, and its log has an entry for each line
that contains the attribute. A scan of a file tells nothing beyond the scan of its text. A run tells
what its scan tells, all of it details, and one more entry, the last and the only one that matters
more, if and only if it succeeds. -/
theorem log_tells_result (scanner : Scanner) (source text : Text) (version : Int64)
    (tree : FileTree) (writing : FileTree.Writing) (tag output : Text) :
    let scan := scanner.scanText source text version
    let ofFile := scanner.scanFile tree source version
    let run := (scanner.runVia writing tree tag source output version).1
    (∀ outcome, scan.result = .ok outcome →
      ∃ earlier line later mentions,
        text.lines = earlier ++ line :: later ∧
        (∀ other ∈ earlier, scanner.exportAttribute <:+: other → Definition.name? other = none) ∧
        scanner.exportAttribute <:+: line ∧ Definition.name? line = some outcome.exportMacro ∧
        NumbersOf (scanner.exportAttribute <:+: ·) earlier mentions ∧
        scan.events.map Event.shown =
          mentions.map (fun number =>
            logEntry .debug "attribute found outside a #define" [("line", .count number)]) ++
          [logEntry .debug "export macro detected"
            [("line", .count (earlier.length + 1)), ("export_macro", .text outcome.exportMacro)]] ++
          outcome.skipped.map (fun number =>
            logEntry .debug "skipping line without a full signature" [("line", .count number)]) ++
          [logEntry .debug "signature extraction finished"
            [("export_macro", .text outcome.exportMacro),
              ("functions", .count outcome.manifest.functions.length),
              ("skipped", .count outcome.skipped.length)]]) ∧
    (∀ failure, scan.result = .error failure →
      failure = .noExportMacro source scanner.exportAttribute ∧
      ∃ mentions,
        NumbersOf (scanner.exportAttribute <:+: ·) text.lines mentions ∧
        scan.events.map Event.shown =
          mentions.map fun number =>
            logEntry .debug "attribute found outside a #define" [("line", .count number)]) ∧
    (ofFile.events =
      match tree.read source with
      | .ok bytes => (scanner.scanText source (Utf8.decodeLossy bytes) version).events
      | .error _ => []) ∧
    (run.events.map Event.shown =
      ofFile.events.map Event.shown ++
        match run.result with
        | .ok outcome =>
          [logEntry .info "manifest written"
            [("source", .text source), ("output", .text output),
              ("functions", .count outcome.manifest.functions.length)]]
        | .error _ => []) ∧
    ∀ event ∈ ofFile.events, event.level = .debug := by
  intro scan ofFile run
  have ofFileEvents := scanner.scanFile_events tree source version
  refine ⟨?_, ?_, ofFileEvents, ?_, ?_⟩
  · intro outcome succeeds
    have bound := (Scanner.scanText_eq_ok_iff.mp succeeds).1
    rw [exportMacro?_eq_findSome?] at bound
    obtain ⟨earlier, line, later, split, binds, unbound⟩ := List.findSome?_eq_some_iff.mp bound
    obtain ⟨occurs, defines⟩ := boundMacro?_eq_some_iff.mp binds
    refine ⟨earlier, line, later, _, split,
      fun other member => boundMacro?_eq_none_iff.mp (unbound other member), occurs, defines,
      mentions_numbersOf _ earlier, ?_⟩
    rw [Scanner.scanText_events_ok succeeds split unbound binds]
    simp only [List.map_append, List.map_map]
    rfl
  · intro failure fails
    obtain ⟨missing, told⟩ := Scanner.scanText_events_error fails
    refine ⟨missing, _, mentions_numbersOf _ text.lines, ?_⟩
    rw [told, List.map_map]
    rfl
  · have told := scanner.runVia_events writing tree tag source output version
    rw [told, List.map_append]
    refine congrArg _ ?_
    cases (scanner.runVia writing tree tag source output version).1.result <;> rfl
  · intro event member
    rw [ofFileEvents] at member
    split at member
    · exact scanner.scanText_events_level _ _ _ event member
    · cases member

/-- A source that mentions the attribute before the line that defines the macro and behind it, and
has a line that is skipped. -/
def mentioningSource : Text :=
  "// x\n#define API x\nAPI\n#define MINE x\nAPI int f()\n".toList

/-- The mention behind the definition is not told, and the skipped line is. -/
theorem log_tells_result_mentioned :
    let scanner : Scanner :=
      { exportAttribute := "x".toList, indent := 3, clock := .fixed "now".toList }
    let scan := scanner.scanText "a.c".toList mentioningSource 1
    let found : Outcome :=
      { exportMacro := "API".toList
        manifest :=
          { schemaVersion := 1, source := "a.c".toList, timestamp := "now".toList,
            functions := [{ name := "f".toList, returnType := "int".toList, args := [] }] }
        skipped := [3]
        output? := none }
    scan.result = .ok found ∧
      ∃ (mentions : List Nat) (number : Nat),
        scan.events.map Event.shown =
          mentions.map (fun number =>
            logEntry .debug "attribute found outside a #define" [("line", .count number)]) ++
          [logEntry .debug "export macro detected"
              [("line", .count number), ("export_macro", .text "API".toList)],
            logEntry .debug "skipping line without a full signature" [("line", .count 3)],
            logEntry .debug "signature extraction finished"
              [("export_macro", .text "API".toList), ("functions", .count 1),
                ("skipped", .count 1)]] := by
  intro scanner scan found
  have succeeds : scan.result = .ok found := by rfl
  obtain ⟨told, _⟩ := log_tells_result scanner "a.c".toList mentioningSource 1
    { entries := [], workDirectory := [] } .whole [] []
  obtain ⟨earlier, _, _, mentions, _, _, _, _, _, shown⟩ := told found succeeds
  refine ⟨succeeds, mentions, earlier.length + 1, shown.trans ?_⟩
  simp only [List.append_assoc]
  rfl

end ExportManifest
