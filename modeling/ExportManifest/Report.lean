/-
**Telling the outcome.**

A successful run is summed up in one line, and in a few more for a reader who asks for details.
The lines are written to a sink, which may take only so many bytes: writing stops at the first
refusal, and what reached the sink is a prefix of the whole text.
-/

import ExportManifest.Scanner

namespace ExportManifest

/-! ### Sinks -/

/-- A sink for bytes: how many more it takes, if there is a limit, the fault it then gives, and
what it has taken. -/
structure Sink where
  room? : Option Nat
  fault : FileFault
  taken : List UInt8

namespace Sink

/-- The sink that takes all bytes. -/
def unlimited : Sink :=
  { room? := none, fault := .system .noSpace, taken := [] }

/-- The sink that takes the given number of bytes. -/
def limited (room : Nat) (fault : FileFault) : Sink :=
  { room? := some room, fault, taken := [] }

/-- Writes bytes as far as there is room. -/
def write (sink : Sink) (bytes : List UInt8) : Except FileFault Unit × Sink :=
  match sink.room? with
  | none => (.ok (), { sink with taken := sink.taken ++ bytes })
  | some room =>
    let after : Sink :=
      { sink with room? := some (room - bytes.length), taken := sink.taken ++ bytes.take room }
    if bytes.length ≤ room then (.ok (), after) else (.error sink.fault, after)

/-- Writes lines, each with its newline, up to the first refusal. -/
def writeLines (sink : Sink) : List Text → Except FileFault Unit × Sink
  | [] => (.ok (), sink)
  | line :: later =>
    match sink.write (Utf8.encode (line ++ ['\n'])) with
    | (.ok (), after) => after.writeLines later
    | (.error fault, after) => (.error fault, after)

end Sink

/-! ### Lines -/

namespace Outcome

/-- The one line that sums up a run. -/
def summary (outcome : Outcome) : Text :=
  let found := "Found ".toList ++ Decimal.ofNat outcome.manifest.count ++
    " exported functions.".toList
  match outcome.output? with
  | some output => found ++ " JSON written to ".toList ++ output
  | none => found

/-- The lines for a reader who asks for details. -/
def details (outcome : Outcome) : List Text :=
  (match outcome.output? with
    | some output =>
      ["Writing ".toList ++ Decimal.ofNat outcome.manifest.count ++ " functions to ".toList ++
        output]
    | none => []) ++
  ["[VERBOSE] File scanned for functions: ".toList ++ outcome.manifest.source,
    "[VERBOSE] Export macro: ".toList ++ outcome.exportMacro] ++
  (if outcome.skipped.isEmpty then []
    else
      ["[VERBOSE] Skipped macro lines without a signature: ".toList ++
        ", ".toList.intercalate (outcome.skipped.map Decimal.ofNat)])

/-- All lines of a report. -/
def reportLines (outcome : Outcome) (verbose : Bool) : List Text :=
  outcome.summary :: (if verbose then outcome.details else [])

/-- Writes a report to a sink. -/
def report (outcome : Outcome) (verbose : Bool) (sink : Sink) : Except FileFault Unit × Sink :=
  sink.writeLines (outcome.reportLines verbose)

end Outcome

end ExportManifest
