/-
**The two passes of a scan, line by line.**

Both passes look at each line on its own: the first asks whether the line binds a macro to the
attribute, the second whether it is a declaration and whether it can be read. Only the number of a
line depends on the lines before it, and the search for the macro ends at the first line that binds
one. So what a scan has found in some lines stays found when lines are added behind them.

* `occursIn_iff`, `name?_eq_some_iff`: when a line contains the attribute, and when it defines a name.
* `exportMacro?_eq_findSome?`: the first pass takes the macro of the first line that binds one.
* `skipped_ofLines`: the second pass skips the numbers of the lines that it cannot read.
* `scanText_eq_ok_iff`: **what a scan of a text gives**, in terms of the two passes.
* `scanText_appended`: text added behind a newline adds to the result, and changes nothing in it.
-/

import ExportManifest.Proofs.Scanner.Completion
import ExportManifest.Proofs.Text.Lines

namespace ExportManifest

/-! ### Lines that define a macro -/

theorem Text.occursIn_iff {pattern text : Text} :
    pattern.occursIn text = true ↔ pattern <:+: text := by
  induction text with
  | nil => rw [occursIn, List.isEmpty_iff, List.infix_nil]
  | cons c rest ih =>
    rw [occursIn, Bool.or_eq_true, List.isPrefixOf_iff_prefix, ih, List.infix_cons_iff]

namespace Definition

theorem isBlank_of_isGap {c : Char} (gap : Text.isGap c = true) : Text.isBlank c = true := by
  rw [Text.isGap, Bool.or_eq_true, beq_iff_eq, beq_iff_eq] at gap
  rcases gap with rfl | rfl <;> rfl

/-- **A line defines a name** if it is `#define`, some gaps and that name, which is not empty, has
no blank in it and ends at a blank or with the line. -/
theorem name?_eq_some_iff {line name : Text} :
    name? line = some name ↔
      name ≠ [] ∧ (∀ c ∈ name, Text.isBlank c = false) ∧
        ∃ gaps tail, gaps ≠ [] ∧ (∀ c ∈ gaps, Text.isGap c = true) ∧
          Stops (fun c => !Text.isBlank c) tail ∧
          line = "#define".toList ++ (gaps ++ (name ++ tail)) := by
  constructor
  · intro defines
    unfold name? at defines
    split at defines
    · cases defines
    rename_i rest begins
    simp only at defines
    split at defines
    · rename_i named
      cases defines
      obtain ⟨gapped, nonempty⟩ := Bool.and_eq_true_iff.mp named
      have directive := List.isPrefixOf?_eq_some_iff_append_eq.mp begins
      refine ⟨by simpa using nonempty, fun c member => ?_, rest.takeWhile Text.isGap,
        (rest.dropWhile Text.isGap).dropWhile fun c => !Text.isBlank c, ?_,
        fun c member => List.mem_takeWhile_imp member, stops_dropWhile _ _, ?_⟩
      · simpa using List.mem_takeWhile_imp member
      · cases rest with
        | nil => cases gapped
        | cons c later =>
          have gap : Text.isGap c = true := gapped
          rw [List.takeWhile_cons_of_pos gap]
          exact List.cons_ne_nil _ _
      · rw [List.takeWhile_append_dropWhile, List.takeWhile_append_dropWhile, directive]
    · cases defines
  · rintro ⟨nonempty, solid, gaps, tail, gapped, allGaps, ends, rfl⟩
    have inside : ∀ c ∈ name, (!Text.isBlank c) = true := fun c member => by
      rw [solid c member]
      rfl
    have nameStart : Stops Text.isGap (name ++ tail) := by
      rw [stops_append_iff nonempty]
      intro c first
      refine Bool.eq_false_iff.mpr fun gap => ?_
      have blank := isBlank_of_isGap gap
      rw [solid c (List.mem_of_mem_head? first)] at blank
      cases blank
    have begins : "#define".toList.isPrefixOf? ("#define".toList ++ (gaps ++ (name ++ tail))) =
        some (gaps ++ (name ++ tail)) := List.isPrefixOf?_eq_some_iff_append_eq.mpr rfl
    have separated : (gaps ++ (name ++ tail)).head?.any Text.isGap = true := by
      cases gaps with
      | nil => exact absurd rfl gapped
      | cons c later => exact allGaps c List.mem_cons_self
    unfold name?
    rw [begins]
    simp only
    rw [dropWhile_of_stops allGaps nameStart, takeWhile_of_stops inside ends, separated,
      if_pos (by simpa using nonempty)]

end Definition

/-! ### The first pass -/

/-- The macro that a line binds to the attribute: the line contains the attribute and is a
definition. -/
def boundMacro? (exportAttribute line : Text) : Option Text :=
  if exportAttribute.occursIn line then Definition.name? line else none

theorem searchFrom_eq_findSome? (exportAttribute : Text) (number : Nat) (lines : List Text) :
    (Definition.searchFrom exportAttribute number lines).1 =
      lines.findSome? (boundMacro? exportAttribute) := by
  induction lines generalizing number with
  | nil => rfl
  | cons line later ih =>
    rw [Definition.searchFrom, List.findSome?_cons, boundMacro?]
    by_cases occurs : exportAttribute.occursIn line
    · rw [if_pos occurs, if_pos occurs]
      cases Definition.name? line with
      | none => exact ih (number + 1)
      | some name => rfl
    · rw [if_neg occurs, if_neg occurs]
      exact ih (number + 1)

theorem exportMacro?_eq_findSome? (exportAttribute : Text) (lines : List Text) :
    exportMacro? exportAttribute lines = lines.findSome? (boundMacro? exportAttribute) :=
  searchFrom_eq_findSome? exportAttribute 1 lines

/-- Lines behind the one that binds the macro play no part. -/
theorem exportMacro?_append {exportAttribute name : Text} {earlier : List Text}
    (bound : exportMacro? exportAttribute earlier = some name) (added : List Text) :
    exportMacro? exportAttribute (earlier ++ added) = some name := by
  rw [exportMacro?_eq_findSome?] at bound ⊢
  rw [List.findSome?_append, bound, Option.some_or]

/-! ### The second pass -/

attribute [ext] Extraction

/-- Whether a line begins with the macro and holds no signature behind it. -/
def unreadable (exportMacro line : Text) : Bool :=
  (exportMacro.isPrefixOf? line).any fun declaration => (Signature.parse? declaration).isNone

theorem skipped_readFrom (exportMacro : Text) (number : Nat) (lines : List Text) :
    (Extraction.readFrom exportMacro number lines).1.skipped =
      ((lines.zipIdx number).filter fun numbered => unreadable exportMacro numbered.1).map
        Prod.snd := by
  induction lines generalizing number with
  | nil => rfl
  | cons line later ih =>
    rw [Extraction.readFrom, List.zipIdx_cons, List.filter_cons, unreadable]
    cases exportMacro.isPrefixOf? line with
    | none => exact ih (number + 1)
    | some declaration =>
      rcases Option.eq_none_or_eq_some (Signature.parse? declaration) with read | ⟨signature, read⟩
      · simp only [Option.any_some, read]
        exact congrArg (number :: ·) (ih (number + 1))
      · simp only [Option.any_some, read]
        exact ih (number + 1)

/-- **Extraction skips the lines that it cannot read**, by their numbers from 1 on. -/
theorem skipped_ofLines (exportMacro : Text) (lines : List Text) :
    (Extraction.ofLines exportMacro lines).skipped =
      ((lines.zipIdx 1).filter fun numbered => unreadable exportMacro numbered.1).map Prod.snd :=
  skipped_readFrom exportMacro 1 lines

theorem functions_ofLines_append (exportMacro : Text) (earlier added : List Text) :
    (Extraction.ofLines exportMacro (earlier ++ added)).functions =
      (Extraction.ofLines exportMacro earlier).functions ++
        (Extraction.ofLines exportMacro added).functions := by
  rw [functions_ofLines, functions_ofLines, functions_ofLines, List.filterMap_append]

/-- Added lines are numbered on from those before them. -/
theorem skipped_ofLines_append (exportMacro : Text) (earlier added : List Text) :
    (Extraction.ofLines exportMacro (earlier ++ added)).skipped =
      (Extraction.ofLines exportMacro earlier).skipped ++
        (Extraction.ofLines exportMacro added).skipped.map (· + earlier.length) := by
  have shifted : added.zipIdx (1 + earlier.length) =
      (added.zipIdx 1).map fun numbered => (numbered.1, numbered.2 + earlier.length) := by
    rw [List.zipIdx_eq_map_add, List.zipIdx_eq_map_add (i := 1), List.map_map]
    refine List.map_congr_left fun numbered _ => ?_
    show (numbered.1, 1 + earlier.length + numbered.2) =
      (numbered.1, 1 + numbered.2 + earlier.length)
    rw [Nat.add_right_comm]
  rw [skipped_ofLines, skipped_ofLines, skipped_ofLines, List.zipIdx_append, List.filter_append,
    List.map_append, shifted, List.filter_map, List.map_map, List.map_map]
  rfl

/-! ### A whole scan -/

namespace Scanner

variable {scanner : Scanner} {source text : Text} {version : Int64} {outcome : Outcome}

/-- What a scan of a text gives, once the macro is known. -/
def outcomeOf (scanner : Scanner) (source text : Text) (version : Int64) (exportMacro : Text) :
    Outcome :=
  { exportMacro
    manifest :=
      { schemaVersion := version
        source
        timestamp := scanner.clock.now
        functions := (Extraction.ofLines exportMacro text.lines).functions }
    skipped := (Extraction.ofLines exportMacro text.lines).skipped
    output? := none }

theorem scanText_result (scanner : Scanner) (source text : Text) (version : Int64) :
    (scanner.scanText source text version).result =
      match exportMacro? scanner.exportAttribute text.lines with
      | none => .error (.noExportMacro source scanner.exportAttribute)
      | some exportMacro => .ok (scanner.outcomeOf source text version exportMacro) := by
  unfold scanText exportMacro?
  simp only
  cases (Definition.search scanner.exportAttribute text.lines).1 <;> rfl

/-- **What a scan of a text gives.** -/
theorem scanText_eq_ok_iff :
    (scanner.scanText source text version).result = .ok outcome ↔
      exportMacro? scanner.exportAttribute text.lines = some outcome.exportMacro ∧
        outcome = scanner.outcomeOf source text version outcome.exportMacro := by
  rw [scanText_result]
  constructor
  · intro succeeds
    cases bound : exportMacro? scanner.exportAttribute text.lines with
    | none =>
      rw [bound] at succeeds
      cases succeeds
    | some exportMacro =>
      rw [bound] at succeeds
      cases succeeds
      exact ⟨rfl, rfl⟩
  · rintro ⟨bound, shape⟩
    rw [bound]
    exact congrArg Except.ok shape.symm

end Scanner

/-- **Scanning is incremental.** Where a scan of a text that ends in a newline succeeds, a scan of
that text with anything added behind it succeeds as well: the macro, the name of the source, the
version and the time are the same, the functions that the added lines declare under that macro come
behind those already found, and so do the added lines that cannot be read, numbered on from the
lines already there. -/
theorem scanText_appended (scanner : Scanner) (source earlier added : Text) (version : Int64)
    (outcome : Outcome) (terminated : earlier.getLast? = some '\n')
    (succeeds : (scanner.scanText source earlier version).result = .ok outcome) :
    let more := Extraction.ofLines outcome.exportMacro added.lines
    (scanner.scanText source (earlier ++ added) version).result =
      .ok
        { outcome with
          manifest :=
            { outcome.manifest with functions := outcome.manifest.functions ++ more.functions }
          skipped := outcome.skipped ++ more.skipped.map (· + earlier.lines.length) } := by
  intro more
  obtain ⟨bound, shape⟩ := Scanner.scanText_eq_ok_iff.mp succeeds
  have lines : (earlier ++ added).lines = earlier.lines ++ added.lines :=
    Text.lines_append_of_terminated terminated added
  have boundAgain : exportMacro? scanner.exportAttribute (earlier ++ added).lines =
      some outcome.exportMacro := by
    rw [lines]
    exact exportMacro?_append bound added.lines
  rw [Scanner.scanText_result, boundAgain]
  refine congrArg Except.ok ?_
  rw [shape]
  simp only [Scanner.outcomeOf, lines, functions_ofLines_append, skipped_ofLines_append]
  rfl

/-- A second definition of the attribute, a declaration and a line that cannot be read, added to a
source that ends in such a line: the macro stays, and the fourth line is the one skipped next. -/
theorem scanText_appended_definition :
    let scanner : Scanner :=
      { exportAttribute := "x".toList, indent := 3, clock := .fixed "now".toList }
    let earlier := "#define API x\r\nAPI\n".toList
    let added := "#define MINE x\nAPI ?\nAPI int f()".toList
    let found : Outcome :=
      { exportMacro := "API".toList
        manifest :=
          { schemaVersion := 1, source := "a.c".toList, timestamp := "now".toList,
            functions := [] }
        skipped := [2]
        output? := none }
    earlier.getLast? = some '\n' ∧
      (scanner.scanText "a.c".toList earlier 1).result = .ok found ∧
      (scanner.scanText "a.c".toList (earlier ++ added) 1).result =
        .ok
          { found with
            manifest :=
              { found.manifest with
                functions := [{ name := "f".toList, returnType := "int".toList, args := [] }] }
            skipped := [2, 4] } := by
  intro scanner earlier added found
  have succeeds : (scanner.scanText "a.c".toList earlier 1).result = .ok found := by rfl
  exact ⟨rfl, succeeds, scanText_appended scanner _ earlier added 1 found rfl succeeds⟩

end ExportManifest
