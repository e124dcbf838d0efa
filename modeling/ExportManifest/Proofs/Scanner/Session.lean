/-
**The clock over a session.**

A session is a list of calls of one scanner: scans of texts, scans of files and runs, each on
whatever tree it finds. The clock goes from call to call. A call asks it once if it gets as far as
finding the macro, whatever becomes of it afterwards, and else not at all; so the readings taken
before a call are as many as the calls before it that found their macro.

* `Call.detects`: whether a call finds the macro, said without its course.
* `Call.perform_clock`, `Call.perform_ok`: **what one call does to the clock**, and which reading it
  shows.
* `Scanner.session_getElem?`: each call of a session starts with the clock that the calls before it
  left.
* `clock_asked_once_per_scan`: over a whole session, the readings are used one after another and
  none of them twice.
-/

import ExportManifest.Proofs.Scanner.Passes

namespace ExportManifest

/-! ### Clocks -/

namespace Clock

/-- The clock after it was asked the given number of times. -/
def after (clock : Clock) (times : Nat) : Clock :=
  { clock with taken := clock.taken + times }

theorem after_after (clock : Clock) (first second : Nat) :
    (clock.after first).after second = clock.after (first + second) := by
  unfold after
  rw [Nat.add_assoc]

/-- A counting clock never shows the same text twice. -/
theorem counting_injective (text : Text) : Function.Injective (counting text).readings := by
  intro first second same
  have digits : Decimal.ofNat (first + 1) = Decimal.ofNat (second + 1) :=
    List.append_cancel_left same
  have values := congrArg Decimal.value digits
  rw [Decimal.value_ofNat, Decimal.value_ofNat] at values
  exact Nat.succ.inj values

end Clock

/-! ### Calls -/

/-- A call of a scanner. A call that needs a tree brings the one that it finds. -/
inductive Call
  | scanText (source text : Text) (version : Int64)
  | scanFile (tree : FileTree) (source : Text) (version : Int64)
  | run (tree : FileTree) (writing : FileTree.Writing) (tag source output : Text)
    (version : Int64)

namespace Call

/-- The course of a call. -/
def perform (scanner : Scanner) : Call → Scan
  | scanText source text version => scanner.scanText source text version
  | scanFile tree source version => scanner.scanFile tree source version
  | run tree writing tag source output version =>
    (scanner.runVia writing tree tag source output version).1

/-- The text in which a call looks for the macro, if its source can be read. -/
def text? : Call → Option Text
  | scanText _ text _ => some text
  | scanFile tree source _ => (tree.read source).toOption.map Utf8.decodeLossy
  | run tree _ _ source _ _ => (tree.read source).toOption.map Utf8.decodeLossy

/-- Whether a call finds a macro that is bound to the attribute. -/
def detects (exportAttribute : Text) (call : Call) : Bool :=
  call.text?.any fun text => (exportMacro? exportAttribute text.lines).isSome

/-- How often a call asks the clock. -/
def readings (exportAttribute : Text) (call : Call) : Nat :=
  if call.detects exportAttribute then 1 else 0

end Call

namespace Scanner

/-- The courses of the calls of a session. Each call has the clock that the one before it left. -/
def session (scanner : Scanner) : List Call → List Scan
  | [] => []
  | call :: later =>
    let scan := call.perform scanner
    scan :: session { scanner with clock := scan.clock } later

/-- How often the clock was asked before the call of a session that has the given index. -/
def readingsBefore (scanner : Scanner) (calls : List Call) (index : Nat) : Nat :=
  (calls.take index).countP (Call.detects scanner.exportAttribute)

/-! ### One call -/

variable {scanner : Scanner} {outcome : Outcome}

theorem scanText_clock (scanner : Scanner) (source text : Text) (version : Int64) :
    (scanner.scanText source text version).clock =
      scanner.clock.after
        (if (exportMacro? scanner.exportAttribute text.lines).isSome then 1 else 0) := by
  unfold scanText exportMacro?
  simp only
  cases (Definition.search scanner.exportAttribute text.lines).1 <;> rfl

theorem scanFile_clock (scanner : Scanner) (tree : FileTree) (source : Text) (version : Int64) :
    (scanner.scanFile tree source version).clock = scanner.clock.after
      ((Call.scanFile tree source version).readings scanner.exportAttribute) := by
  unfold scanFile Call.readings Call.detects
  rw [Call.text?]
  cases tree.read source with
  | error fault => rfl
  | ok bytes => exact scanText_clock scanner source (Utf8.decodeLossy bytes) version

/-- Writing the manifest does not ask the clock. -/
theorem runVia_clock (scanner : Scanner) (writing : FileTree.Writing) (tree : FileTree)
    (tag source output : Text) (version : Int64) :
    (scanner.runVia writing tree tag source output version).1.clock =
      (scanner.scanFile tree source version).clock := by
  unfold runVia
  simp only
  cases (scanner.scanFile tree source version).result with
  | error failure => rfl
  | ok found =>
    simp only [Scan.written]
    cases (tree.publishVia output tag writing (scanner.fileBytes found)).1 <;> rfl

end Scanner

namespace Call

variable {scanner : Scanner} {outcome : Outcome}

/-- **A call asks the clock once if it finds the macro, and else not at all.** -/
theorem perform_clock (scanner : Scanner) (call : Call) :
    (call.perform scanner).clock = scanner.clock.after (call.readings scanner.exportAttribute) := by
  cases call with
  | scanText source text version => exact scanner.scanText_clock source text version
  | scanFile tree source version => exact scanner.scanFile_clock tree source version
  | run tree writing tag source output version =>
    have written := scanner.runVia_clock writing tree tag source output version
    exact written.trans (scanner.scanFile_clock tree source version)

theorem scanFile_ok {tree : FileTree} {source : Text} {version : Int64}
    (succeeds : (scanner.scanFile tree source version).result = .ok outcome) :
    (scanFile tree source version).detects scanner.exportAttribute = true ∧
      outcome.manifest.timestamp = scanner.clock.now := by
  obtain ⟨⟨bytes, reads, finds⟩, _⟩ := Scanner.scanContent_ok succeeds
  refine ⟨?_, finds.timestamp⟩
  simp only [detects, text?, reads, Except.toOption, Option.map_some, Option.any_some,
    finds.exportMacro, Option.isSome_some]

/-- **A call that succeeds** found the macro, and shows what the clock showed to it. -/
theorem perform_ok {call : Call} (succeeds : (call.perform scanner).result = .ok outcome) :
    call.detects scanner.exportAttribute = true ∧
      outcome.manifest.timestamp = scanner.clock.now := by
  cases call with
  | scanText source text version =>
    obtain ⟨bound, shape⟩ := Scanner.scanText_eq_ok_iff.mp succeeds
    refine ⟨?_, by rw [shape]; rfl⟩
    simp only [detects, text?, Option.any_some, bound, Option.isSome_some]
  | scanFile tree source version => exact scanFile_ok succeeds
  | run tree writing tag source output version =>
    obtain ⟨found, scanned, rfl, _⟩ := Scanner.runVia_ok succeeds
    obtain ⟨detects, timestamp⟩ := scanFile_ok scanned
    exact ⟨detects, timestamp⟩

end Call

/-! ### A whole session -/

namespace Scanner

variable {scanner : Scanner} {calls : List Call} {index : Nat} {scan : Scan} {outcome : Outcome}

/-- The scanner as a call of a session finds it. -/
def atCall (scanner : Scanner) (calls : List Call) (index : Nat) : Scanner :=
  { scanner with clock := scanner.clock.after (scanner.readingsBefore calls index) }

/-- A call takes its readings before the calls behind it. -/
theorem atCall_succ (scanner : Scanner) (call : Call) (later : List Call) (index : Nat) :
    scanner.atCall (call :: later) (index + 1) =
      atCall { scanner with clock := (call.perform scanner).clock } later index := by
  unfold atCall readingsBefore
  rw [Call.perform_clock, Clock.after_after, List.take_succ_cons, List.countP_cons, Nat.add_comm]
  rfl

/-- **Each call of a session starts where the calls before it left the clock.** -/
theorem session_getElem? (scanner : Scanner) (calls : List Call) (index : Nat) :
    (scanner.session calls)[index]? =
      calls[index]?.map fun call => call.perform (scanner.atCall calls index) := by
  induction calls generalizing scanner index with
  | nil => rfl
  | cons call later ih =>
    cases index with
    | zero => rfl
    | succ index =>
      rw [session, List.getElem?_cons_succ, List.getElem?_cons_succ, ih, atCall_succ]

/-- The reading that a successful call of a session shows. -/
theorem session_timestamp (performed : (scanner.session calls)[index]? = some scan)
    (succeeds : scan.result = .ok outcome) :
    (∃ call, calls[index]? = some call ∧ call.detects scanner.exportAttribute = true) ∧
      outcome.manifest.timestamp =
        scanner.clock.readings (scanner.clock.taken + scanner.readingsBefore calls index) := by
  rw [session_getElem?] at performed
  obtain ⟨call, called, rfl⟩ := Option.map_eq_some_iff.mp performed
  obtain ⟨detects, timestamp⟩ := Call.perform_ok succeeds
  exact ⟨⟨call, called, detects⟩, timestamp⟩

/-- A call that finds its macro has taken a reading when the next one starts. -/
theorem readingsBefore_lt {call : Call} {other : Nat} (called : calls[index]? = some call)
    (detects : call.detects scanner.exportAttribute = true) (earlier : index < other) :
    scanner.readingsBefore calls index < scanner.readingsBefore calls other := by
  have upTo : calls.take (index + 1) = calls.take index ++ [call] := by
    rw [List.take_add_one, called]
    rfl
  have next : scanner.readingsBefore calls (index + 1) =
      scanner.readingsBefore calls index + 1 := by
    unfold readingsBefore
    rw [upTo, List.countP_append, List.countP_singleton, if_pos detects]
  have grows : scanner.readingsBefore calls (index + 1) ≤ scanner.readingsBefore calls other :=
    (List.take_prefix_take_left earlier).sublist.countP_le
  omega

theorem session_length (scanner : Scanner) (calls : List Call) :
    (scanner.session calls).length = calls.length := by
  induction calls generalizing scanner with
  | nil => rfl
  | cons call later ih => rw [session, List.length_cons, List.length_cons, ih]

/-- The outcomes of two calls of a session show different readings. -/
theorem session_timestamps_ne (distinct : Function.Injective scanner.clock.readings) {other : Nat}
    {otherScan : Scan} {otherOutcome : Outcome} (earlier : index < other)
    (performed : (scanner.session calls)[index]? = some scan)
    (otherPerformed : (scanner.session calls)[other]? = some otherScan)
    (succeeds : scan.result = .ok outcome) (otherSucceeds : otherScan.result = .ok otherOutcome) :
    outcome.manifest.timestamp ≠ otherOutcome.manifest.timestamp := by
  obtain ⟨⟨call, called, detects⟩, timestamp⟩ := session_timestamp performed succeeds
  obtain ⟨_, otherTimestamp⟩ := session_timestamp otherPerformed otherSucceeds
  have before := readingsBefore_lt called detects earlier
  rw [timestamp, otherTimestamp]
  intro same
  have index := distinct same
  omega

end Scanner

/-- **The clock is asked once for each completed scan of a session.** Let the readings of the clock
be pairwise distinct. In a session of any calls, on any trees, a call starts after as many readings
as calls before it found their macro; it takes one reading if it finds its own, also where it then
fails to write, and none otherwise. A call that succeeds found its macro and shows the reading that
it took, and no two calls show the same. -/
theorem clock_asked_once_per_scan (scanner : Scanner) (calls : List Call)
    (distinct : Function.Injective scanner.clock.readings) :
    let scans := scanner.session calls
    let detects := Call.detects scanner.exportAttribute
    scans.length = calls.length ∧
    (∀ index call scan, calls[index]? = some call → scans[index]? = some scan →
      scan = call.perform (scanner.atCall calls index) ∧
      (scanner.atCall calls index).clock.taken =
        scanner.clock.taken + (calls.take index).countP detects ∧
      scan.clock.taken =
        (scanner.atCall calls index).clock.taken + (if detects call then 1 else 0) ∧
      ∀ outcome, scan.result = .ok outcome →
        detects call = true ∧
        outcome.manifest.timestamp =
          scanner.clock.readings (scanner.clock.taken + (calls.take index).countP detects)) ∧
    (∀ (index other : Nat) (scan otherScan : Scan) (outcome otherOutcome : Outcome),
      index ≠ other → scans[index]? = some scan → scans[other]? = some otherScan →
      scan.result = .ok outcome → otherScan.result = .ok otherOutcome →
        outcome.manifest.timestamp ≠ otherOutcome.manifest.timestamp) := by
  intro scans detects
  refine ⟨scanner.session_length calls, ?_, ?_⟩
  · intro index call scan called performed
    have course := scanner.session_getElem? calls index
    rw [performed, called, Option.map_some, Option.some.injEq] at course
    have asked := congrArg Clock.taken (call.perform_clock (scanner.atCall calls index))
    rw [← course] at asked
    refine ⟨course, rfl, asked, ?_⟩
    intro outcome succeeds
    rw [course] at succeeds
    exact Call.perform_ok succeeds
  · intro index other scan otherScan outcome otherOutcome different performed otherPerformed
      succeeds otherSucceeds
    rcases Nat.lt_or_gt_of_ne different with earlier | later
    · exact Scanner.session_timestamps_ne distinct earlier performed otherPerformed succeeds
        otherSucceeds
    · exact (Scanner.session_timestamps_ne distinct later otherPerformed performed otherSucceeds
        succeeds).symm

/-- A scan that succeeds, a run whose output has no name, a scan of a text without a macro, and a
scan of a file. -/
def mixedCalls : List Call :=
  [.scanText "m".toList "#define API x".toList 1,
    .run linkedSource .whole "7.9".toList "in".toList "..".toList 1,
    .scanText "m".toList "API int f()".toList 1,
    .scanFile linkedSource "in".toList 1]

/-- The run that fails to write takes the second reading and the scan without a macro none, so the
last call shows the third. -/
theorem clock_asked_once_per_scan_mixed :
    let scanner : Scanner :=
      { exportAttribute := "x".toList, indent := 3, clock := .counting "t".toList }
    ∃ scan outcome, (scanner.session mixedCalls)[3]? = some scan ∧ scan.result = .ok outcome ∧
      outcome.manifest.timestamp = "t3".toList ∧ scan.clock.taken = 3 := by
  intro scanner
  obtain ⟨_, course, _⟩ :=
    clock_asked_once_per_scan scanner mixedCalls (Clock.counting_injective "t".toList)
  have before : (mixedCalls.take 3).countP (Call.detects scanner.exportAttribute) = 2 := by
    decide +kernel
  have found : Call.detects scanner.exportAttribute (.scanFile linkedSource "in".toList 1) =
    true := by decide +kernel
  have performed := scanner.session_getElem? mixedCalls 3
  obtain ⟨_, started, asked, _⟩ := course 3 (.scanFile linkedSource "in".toList 1) _ rfl performed
  have succeeds : (Call.perform (scanner.atCall mixedCalls 3)
      (.scanFile linkedSource "in".toList 1)).result =
        .ok { linkedOutcome with
          manifest := { linkedOutcome.manifest with timestamp := "t3".toList }
          output? := none } := by
    decide +kernel
  rw [started, before, if_pos found] at asked
  exact ⟨_, _, performed, succeeds, rfl, asked⟩

end ExportManifest
