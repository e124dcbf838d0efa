/-
**Where the macro ends on a line.**

A declaration is a line of the form `MACRO type name(args)`. Extraction looks for the macro as the
first characters of a line and not as its first word, and the gap before the return type may be
empty. So a line whose first word is longer than the macro is read as well, and the rest of that
word is then taken for the return type.

* `StandsAlone`, `RunsOn`: the macro with a gap behind it, and the macro with a return type directly
  behind it.
* `declared?_glued_iff`: **the lines that declare something without a gap behind the macro** are
  those in which the macro runs on into a return type.
* `declarations_stand_alone_iff`: all declarations of a source have the documented form exactly if
  the macro runs on in none of its lines.
* `longer_word_declares`: a source in which it does.
-/

import ExportManifest.Proofs.Scanner.Passes
import ExportManifest.Proofs.Signature.Grammar

namespace ExportManifest

/-- The macro is the first word of a line that goes on: a space or a tab follows it directly. -/
def StandsAlone (exportMacro line : Text) : Prop :=
  ∃ gap rest, Text.isGap gap = true ∧ line = exportMacro ++ gap :: rest

/-- The macro is followed directly by the return type of a signature as declarations have it. -/
def RunsOn (exportMacro line : Text) : Prop :=
  ∃ (signature : Signature) (frame : Signature.Frame), signature.WellFormed ∧ frame.WellFormed ∧
    frame.lead = [] ∧ line = exportMacro ++ frame.around signature

/-! ### One line -/

theorem standsAlone_iff {exportMacro line : Text} :
    StandsAlone exportMacro line ↔
      ((exportMacro.isPrefixOf? line).any fun rest => rest.head?.any Text.isGap) = true := by
  rw [Option.any_eq_true]
  constructor
  · rintro ⟨gap, rest, isGap, rfl⟩
    exact ⟨gap :: rest, List.isPrefixOf?_eq_some_iff_append_eq.mpr rfl, isGap⟩
  · rintro ⟨rest, begins, gapped⟩
    cases rest with
    | nil => cases gapped
    | cons gap later =>
      exact ⟨gap, later, gapped, (List.isPrefixOf?_eq_some_iff_append_eq.mp begins).symm⟩

instance (exportMacro line : Text) : Decidable (StandsAlone exportMacro line) :=
  decidable_of_iff' _ standsAlone_iff

theorem standsAlone_append_iff {exportMacro rest : Text} :
    StandsAlone exportMacro (exportMacro ++ rest) ↔ rest.head?.any Text.isGap = true := by
  have begins : exportMacro.isPrefixOf? (exportMacro ++ rest) = some rest :=
    List.isPrefixOf?_eq_some_iff_append_eq.mpr rfl
  rw [standsAlone_iff, begins, Option.any_some]

theorem declared?_eq_some_iff {exportMacro line : Text} {signature : Signature} :
    declared? exportMacro line = some signature ↔
      ∃ rest, line = exportMacro ++ rest ∧ Signature.parse? rest = some signature := by
  rw [declared?, Option.bind_eq_some_iff]
  refine exists_congr fun rest => and_congr_left fun _ => ?_
  rw [List.isPrefixOf?_eq_some_iff_append_eq]
  exact eq_comm

/-- A frame starts with a gap exactly if something stands before the return type. -/
theorem Signature.Frame.head?_around {frame : Frame} (framed : frame.WellFormed)
    {signature : Signature} (fields : signature.WellFormed) :
    (frame.around signature).head?.any Text.isGap = true ↔ frame.lead ≠ [] := by
  unfold around
  cases shape : frame.lead with
  | nil =>
    obtain ⟨c, others, typeShape⟩ := List.exists_cons_of_ne_nil fields.returnType_ne_nil
    have inside : isTypeChar c = true :=
      fields.returnType c (by rw [typeShape]; exact List.mem_cons_self)
    rw [typeShape]
    simp [isTypeChar_not_isGap inside]
  | cons gap others =>
    have isGap : Text.isGap gap = true :=
      framed.lead gap (by rw [shape]; exact List.mem_cons_self)
    simp [isGap]

/-- **A line declares a signature without a gap behind the macro** exactly if the return type of
that signature follows the macro directly. -/
theorem declared?_glued_iff {exportMacro line : Text} {signature : Signature} :
    (declared? exportMacro line = some signature ∧ ¬ StandsAlone exportMacro line) ↔
      signature.WellFormed ∧ ∃ frame : Signature.Frame, frame.WellFormed ∧ frame.lead = [] ∧
        line = exportMacro ++ frame.around signature := by
  constructor
  · rintro ⟨declares, glued⟩
    obtain ⟨rest, rfl, reads⟩ := declared?_eq_some_iff.mp declares
    obtain ⟨fields, frame, framed, rfl⟩ := Signature.framed_of_parse? reads
    rw [standsAlone_append_iff, frame.head?_around framed fields, not_not] at glued
    exact ⟨fields, frame, framed, glued, rfl⟩
  · rintro ⟨fields, frame, framed, direct, rfl⟩
    refine ⟨declared?_eq_some_iff.mpr ⟨_, rfl, Signature.parse?_around fields framed⟩, ?_⟩
    rw [standsAlone_append_iff, frame.head?_around framed fields, not_not]
    exact direct

theorem runsOn_iff {exportMacro line : Text} :
    RunsOn exportMacro line ↔
      ∃ signature, declared? exportMacro line = some signature ∧
        ¬ StandsAlone exportMacro line := by
  unfold RunsOn
  refine exists_congr fun signature => ?_
  rw [declared?_glued_iff]
  constructor
  · rintro ⟨frame, fields, rest⟩
    exact ⟨fields, frame, rest⟩
  · rintro ⟨fields, frame, rest⟩
    exact ⟨frame, fields, rest⟩

/-! ### A whole source -/

/-- **When only the whole macro introduces declarations.** The functions that a scan reports are
those that the lines declare, line by line. Each of these lines has a space or a tab directly behind
the macro exactly if the source has no line in which the macro runs on into a return type. -/
theorem declarations_stand_alone_iff (scanner : Scanner) (source text : Text) (version : Int64)
    (outcome : Outcome)
    (succeeds : (scanner.scanText source text version).result = .ok outcome) :
    outcome.manifest.functions = text.lines.filterMap (declared? outcome.exportMacro) ∧
      ((∀ line ∈ text.lines, ∀ signature,
          declared? outcome.exportMacro line = some signature →
            StandsAlone outcome.exportMacro line) ↔
        ∀ line ∈ text.lines, ¬ RunsOn outcome.exportMacro line) := by
  obtain ⟨_, shape⟩ := Scanner.scanText_eq_ok_iff.mp succeeds
  constructor
  · rw [shape]
    exact functions_ofLines _ _
  · refine forall₂_congr fun line _ => ?_
    rw [runsOn_iff, not_exists]
    refine forall_congr' fun signature => ?_
    rw [not_and, not_not]

/-- A source with a line whose first word begins with the macro and is longer. -/
def longerWordSource : Text :=
  "#define EXPORT __declspec(dllexport)\nEXPORTED f(void);\n".toList

/-- What a scan of that source finds. -/
def longerWordOutcome : Outcome :=
  { exportMacro := "EXPORT".toList
    manifest :=
      { schemaVersion := 1, source := "a.c".toList, timestamp := "now".toList,
        functions := [{ name := "f".toList, returnType := "ED".toList, args := "void".toList }] }
    skipped := []
    output? := none }

theorem scan_longerWordSource :
    ((Scanner.initial (.fixed "now".toList)).scanText "a.c".toList longerWordSource 1).result =
      .ok longerWordOutcome := by
  rfl

/-- In that source the macro runs on, and so not all its declarations have a gap behind it. -/
theorem declarations_stand_alone_iff_longer_word :
    ((Scanner.initial (.fixed "now".toList)).scanText "a.c".toList longerWordSource 1).result =
        .ok longerWordOutcome ∧
      ∃ line ∈ longerWordSource.lines, RunsOn "EXPORT".toList line := by
  obtain ⟨_, exactly⟩ := declarations_stand_alone_iff _ _ _ _ _ scan_longerWordSource
  refine ⟨scan_longerWordSource, ?_⟩
  by_contra none
  have alone := exactly.mpr fun line member runs => none ⟨line, member, runs⟩
  have glued := alone "EXPORTED f(void);".toList (by decide)
    ⟨"f".toList, "ED".toList, "void".toList⟩ (by rfl)
  exact absurd glued (by decide)

/-- **A longer word introduces a declaration**: a scan for an attribute that is not empty reports a
function, and no line of the source has a space or a tab directly behind the macro. -/
theorem longer_word_declares :
    (Scanner.initial (.fixed "now".toList)).exportAttribute ≠ [] ∧
      ((Scanner.initial (.fixed "now".toList)).scanText "a.c".toList longerWordSource 1).result =
        .ok longerWordOutcome ∧
      longerWordOutcome.manifest.functions ≠ [] ∧
      ∀ line ∈ longerWordSource.lines, ¬ StandsAlone longerWordOutcome.exportMacro line := by
  refine ⟨by decide, scan_longerWordSource, by decide, ?_⟩
  decide

end ExportManifest
