/-
**A report reaches its sink as far as there is room.**

A report is written line by line, and writing ends at the first refusal. A sink that has room for
some bytes only takes them up to its limit, also inside a line; so in the end it has what it would
have if the whole text had been handed to it at once.

* `Sink.write_append`: one write is two writes, cut anywhere, where the second is made only if the
  first was accepted.
* `Sink.writeLines_eq_write`: **writing lines is writing their text at once.**
* `Sink.writeLines_append`, `Sink.refused_of_writeLines`: the line that is refused is the last one
  that is looked at.
* `report_up_to_limit`: what a sink with a limit has of a report, and how the writing ends.
-/

import ExportManifest.Report

namespace ExportManifest

namespace Sink

/-- The bytes of a line with its newline. -/
def lineBytes (line : Text) : List UInt8 :=
  Utf8.encode (line ++ ['\n'])

/-! ### Writes -/

theorem write_some {sink : Sink} {room : Nat} (limit : sink.room? = some room)
    (bytes : List UInt8) :
    sink.write bytes =
      (if bytes.length ≤ room then .ok () else .error sink.fault,
        { sink with
          room? := some (room - bytes.length)
          taken := sink.taken ++ bytes.take room }) := by
  unfold write
  rw [limit]
  simp only
  split
  · rfl
  · rfl

theorem write_fits {sink : Sink} {room : Nat} {bytes : List UInt8} (limit : sink.room? = some room)
    (fits : bytes.length ≤ room) :
    sink.write bytes =
      (.ok (), { sink with
        room? := some (room - bytes.length)
        taken := sink.taken ++ bytes }) := by
  rw [write_some limit, if_pos fits, List.take_of_length_le fits]

theorem write_exceeds {sink : Sink} {room : Nat} {bytes : List UInt8}
    (limit : sink.room? = some room) (exceeds : room < bytes.length) :
    sink.write bytes =
      (.error sink.fault, { sink with
        room? := some 0
        taken := sink.taken ++ bytes.take room }) := by
  rw [write_some limit, if_neg (Nat.not_le_of_lt exceeds),
    Nat.sub_eq_zero_of_le (Nat.le_of_lt exceeds)]

theorem write_endless {sink : Sink} (endless : sink.room? = none) (bytes : List UInt8) :
    sink.write bytes = (.ok (), { sink with taken := sink.taken ++ bytes }) := by
  unfold write
  rw [endless]

/-- **One write is two writes**, of which the second is made if the first was accepted. -/
theorem write_append (sink : Sink) (front back : List UInt8) :
    sink.write (front ++ back) =
      match sink.write front with
      | (.ok (), after) => after.write back
      | (.error fault, after) => (.error fault, after) := by
  cases limit : sink.room? with
  | none =>
    have next : ({ sink with taken := sink.taken ++ front } : Sink).room? = none := limit
    rw [write_endless limit, write_endless limit]
    simp only
    rw [write_endless next, List.append_assoc]
  | some room =>
    by_cases fits : front.length ≤ room
    · rw [write_fits limit fits]
      simp only
      by_cases fitsToo : back.length ≤ room - front.length
      · rw [write_fits limit (by rw [List.length_append]; omega), write_fits rfl fitsToo]
        simp only [List.length_append, List.append_assoc, Nat.sub_sub]
      · rw [write_exceeds limit (by rw [List.length_append]; omega),
          write_exceeds rfl (Nat.lt_of_not_le fitsToo)]
        simp only [List.take_append, List.take_of_length_le fits, List.append_assoc]
    · have exceeds : room < front.length := Nat.lt_of_not_le fits
      rw [write_exceeds limit exceeds,
        write_exceeds limit (by rw [List.length_append]; omega),
        List.take_append_of_le_length (Nat.le_of_lt exceeds)]

/-! ### Lines -/

theorem writeLines_cons (sink : Sink) (line : Text) (later : List Text) :
    sink.writeLines (line :: later) =
      match sink.write (lineBytes line) with
      | (.ok (), after) => after.writeLines later
      | (.error fault, after) => (.error fault, after) := rfl

theorem write_nil (sink : Sink) : sink.write [] = (.ok (), sink) := by
  cases limit : sink.room? with
  | none => rw [write_endless limit, List.append_nil]
  | some room =>
    have fits : ([] : List UInt8).length ≤ room := Nat.zero_le room
    rw [write_fits limit fits, List.append_nil, List.length_nil, Nat.sub_zero, ← limit]

/-- **Writing lines is writing their text at once**, whatever the sink takes. -/
theorem writeLines_eq_write (sink : Sink) (lines : List Text) :
    sink.writeLines lines = sink.write (lines.flatMap lineBytes) := by
  induction lines generalizing sink with
  | nil => exact (write_nil sink).symm
  | cons line later ih =>
    rw [writeLines_cons, List.flatMap_cons, write_append]
    simp only [ih]

theorem writeLines_append (sink : Sink) (front back : List Text) :
    sink.writeLines (front ++ back) =
      match sink.writeLines front with
      | (.ok (), after) => after.writeLines back
      | (.error fault, after) => (.error fault, after) := by
  simp only [writeLines_eq_write, List.flatMap_append]
  exact write_append sink _ _

/-- **A refusal is that of one line**, all lines before which were accepted. -/
theorem refused_of_writeLines {sink after : Sink} {lines : List Text} {fault : FileFault}
    (refused : sink.writeLines lines = (.error fault, after)) :
    ∃ done line later before, lines = done ++ line :: later ∧
      sink.writeLines done = (.ok (), before) ∧
      before.write (lineBytes line) = (.error fault, after) := by
  induction lines generalizing sink with
  | nil => cases refused
  | cons line later ih =>
    rw [writeLines_cons] at refused
    split at refused
    · rename_i next accepted
      obtain ⟨done, other, rest, before, rfl, taken, refusal⟩ := ih refused
      refine ⟨line :: done, other, rest, before, rfl, ?_, refusal⟩
      rw [writeLines_cons, accepted]
      exact taken
    · rename_i other next refusal
      exact ⟨[], line, later, sink, rfl, rfl, refusal.trans refused⟩

end Sink

/-! ### Reports -/

namespace Outcome

/-- The whole text of a report: the summary, and the details for a reader who asks for them, each
line ended by a newline. -/
def reportText (outcome : Outcome) (verbose : Bool) : Text :=
  outcome.summary ++ ['\n'] ++
    if verbose then outcome.details.flatMap fun line => line ++ ['\n'] else []

theorem flatMap_lineBytes (lines : List Text) :
    lines.flatMap Sink.lineBytes = Utf8.encode (lines.flatMap fun line => line ++ ['\n']) :=
  List.flatMap_assoc.symm

/-- **A report is written as its whole text at once would be.** -/
theorem report_eq_write (outcome : Outcome) (verbose : Bool) (sink : Sink) :
    outcome.report verbose sink = sink.write (Utf8.encode (outcome.reportText verbose)) := by
  have whole : ((outcome.reportLines verbose).flatMap fun line => line ++ ['\n']) =
      outcome.reportText verbose := by
    cases verbose
    · rfl
    · rfl
  rw [report, Sink.writeLines_eq_write, flatMap_lineBytes, whole]

/-- The details come behind the summary and leave it as it is. -/
theorem reportText_verbose (outcome : Outcome) :
    outcome.reportText true =
      outcome.reportText false ++ outcome.details.flatMap fun line => line ++ ['\n'] := by
  show _ = outcome.summary ++ ['\n'] ++ [] ++ _
  rw [List.append_nil]
  rfl

end Outcome

theorem Sink.write_limited (room : Nat) (fault : FileFault) (bytes : List UInt8) :
    (Sink.limited room fault).write bytes =
      (if bytes.length ≤ room then .ok () else .error fault,
        { room? := some (room - bytes.length), fault, taken := bytes.take room }) :=
  write_some rfl bytes

/-- **A report is written as far as there is room.** A sink that takes a number of bytes accepts a
report whose text has at most so many, and has then exactly that text. Otherwise it gives its fault,
and has exactly the first bytes of the text, up to its limit: some lines were accepted, the next was
refused, and what then follows plays no part. The details of a report never change what is written
of the summary. -/
theorem report_up_to_limit (outcome : Outcome) (verbose : Bool) (room : Nat) (fault : FileFault) :
    let sink := Sink.limited room fault
    let whole := Utf8.encode (outcome.reportText verbose)
    let written := outcome.report verbose sink
    (whole.length ≤ room → written.1 = .ok () ∧ written.2.taken = whole) ∧
    (room < whole.length →
      written.1 = .error fault ∧ written.2.taken = whole.take room ∧
        ∃ done line later before, outcome.reportLines verbose = done ++ line :: later ∧
          sink.writeLines done = (.ok (), before) ∧
          written = before.write (Utf8.encode (line ++ ['\n'])) ∧
          ∀ others, sink.writeLines (done ++ line :: others) = written) ∧
    (∃ details, outcome.reportText true = outcome.reportText false ++ details) ∧
    (outcome.report false sink).2.taken =
      (outcome.report true sink).2.taken.take (Utf8.encode (outcome.reportText false)).length := by
  intro sink whole written
  have atOnce : written = sink.write whole := outcome.report_eq_write verbose sink
  rw [Sink.write_limited] at atOnce
  refine ⟨fun fits => ?_, fun exceeds => ?_, ⟨_, outcome.reportText_verbose⟩, ?_⟩
  · rw [atOnce, if_pos fits]
    exact ⟨rfl, List.take_of_length_le fits⟩
  · rw [if_neg (Nat.not_le_of_lt exceeds)] at atOnce
    obtain ⟨done, line, later, before, shape, accepted, refused⟩ :=
      Sink.refused_of_writeLines atOnce
    have ended : written = before.write (Sink.lineBytes line) := atOnce.trans refused.symm
    refine ⟨by rw [atOnce], by rw [atOnce], done, line, later, before, shape, accepted, ended,
      fun others => ?_⟩
    rw [Sink.writeLines_append, accepted]
    simp only
    rw [Sink.writeLines_cons, refused, atOnce]
  · -- Both are cut from the longer text, once by the limit and once where the summary ends.
    rw [outcome.report_eq_write, outcome.report_eq_write, Sink.write_limited, Sink.write_limited,
      outcome.reportText_verbose]
    simp only [Utf8.encode, List.flatMap_append]
    rw [List.take_take, Nat.min_comm, ← List.take_take, List.take_left]

/-- A report with details whose second line is refused inside a character of two bytes, and which
fits exactly into a sink that takes as many bytes as it has. -/
theorem report_up_to_limit_inside :
    let outcome : Outcome :=
      { exportMacro := "API".toList
        manifest :=
          { schemaVersion := 1, source := "é.c".toList, timestamp := "now".toList,
            functions := [] }
        skipped := [2, 10]
        output? := none }
    let fault : FileFault := .other "full".toList
    let whole := Utf8.encode (outcome.reportText true)
    let cut := outcome.report true (.limited 67 fault)
    let full := outcome.report true (.limited 156 fault)
    whole.take 67 =
        Utf8.encode
          "Found 0 exported functions.\n[VERBOSE] File scanned for functions: ".toList ++ [0xc3] ∧
      67 < whole.length ∧ cut.1 = .error fault ∧ cut.2.taken = whole.take 67 ∧
      whole.length ≤ 156 ∧ full.1 = .ok () ∧ full.2.taken = whole := by
  intro outcome fault whole cut full
  have length : whole.length = 156 := by decide +kernel
  have exceeds : 67 < whole.length := by omega
  have fits : whole.length ≤ 156 := by omega
  obtain ⟨_, refuses, _⟩ := report_up_to_limit outcome true 67 fault
  obtain ⟨accepts, _⟩ := report_up_to_limit outcome true 156 fault
  obtain ⟨refused, front, _⟩ := refuses exceeds
  obtain ⟨accepted, taken⟩ := accepts fits
  exact ⟨by decide +kernel, exceeds, refused, front, fits, accepted, taken⟩

end ExportManifest
