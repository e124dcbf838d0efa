/-
**What a scan found can be written down as a source.**

The plain source of an outcome is one line that defines the macro, and one line for each function:
the macro, the return type, the name and the arguments in parentheses, with single spaces between
them. The line of the definition ends in a space, so that an attribute that ends in a carriage
return keeps it.

* `word_of_exportMacro?`: the macro of a scan is one word without blanks.
* `wellFormed_of_declared`: what a line declares is a well-formed signature without newlines.
* `declared?_plainLine`: a well-formed signature is read back from its plain line.
* `rescan_plainSource`: **scanning the plain source of an outcome finds that outcome again**, with
  no line skipped, unless the macro is the beginning of `#define` and so begins the first line.
-/

import ExportManifest.Proofs.Scanner.Passes
import ExportManifest.Proofs.Signature.Grammar

namespace ExportManifest

/-! ### Plain sources -/

/-- A declaration as it is usually written. -/
def Signature.plainLine (exportMacro : Text) (signature : Signature) : Text :=
  exportMacro ++ [' '] ++ signature.returnType ++ [' '] ++ signature.name ++ ['('] ++
    signature.args ++ [')']

/-- The line that binds the macro to the attribute. -/
def plainDefinition (exportMacro exportAttribute : Text) : Text :=
  "#define ".toList ++ exportMacro ++ [' '] ++ exportAttribute ++ [' ']

/-- The lines of the plain source for a macro and some functions. -/
def plainLines (exportMacro exportAttribute : Text) (functions : List Signature) : List Text :=
  plainDefinition exportMacro exportAttribute :: functions.map (Signature.plainLine exportMacro)

/-- A source that binds the macro of an outcome to the attribute and declares its functions. -/
def Outcome.plainSource (outcome : Outcome) (exportAttribute : Text) : Text :=
  (plainLines outcome.exportMacro exportAttribute outcome.manifest.functions).flatMap fun line =>
    line ++ ['\n']

/-! ### What a scan finds -/

/-- The macro of a scan is bound by a line with the attribute in it, and is a word without blanks. -/
theorem word_of_exportMacro? {exportAttribute name : Text} {lines : List Text}
    (bound : exportMacro? exportAttribute lines = some name) :
    (∃ line ∈ lines, exportAttribute <:+: line) ∧ name ≠ [] ∧
      ∀ c ∈ name, Text.isBlank c = false := by
  rw [exportMacro?_eq_findSome?] at bound
  obtain ⟨line, member, binds⟩ := List.exists_of_findSome?_eq_some bound
  unfold boundMacro? at binds
  split at binds
  · rename_i occurs
    obtain ⟨nonempty, solid, _⟩ := Definition.name?_eq_some_iff.mp binds
    exact ⟨⟨line, member, Text.occursIn_iff.mp occurs⟩, nonempty, solid⟩
  · cases binds

theorem newline_mem_plainLine_iff {exportMacro : Text} {signature : Signature} :
    '\n' ∈ signature.plainLine exportMacro ↔
      '\n' ∈ exportMacro ∨ '\n' ∈ signature.returnType ∨ '\n' ∈ signature.name ∨
        '\n' ∈ signature.args := by
  simp [Signature.plainLine]

/-- What a line declares is a well-formed signature, and no newline stands in it. -/
theorem wellFormed_of_declared {exportMacro line : Text} {signature : Signature}
    (declares : declared? exportMacro line = some signature) (free : '\n' ∉ line) :
    signature.WellFormed ∧ '\n' ∉ signature.plainLine exportMacro := by
  obtain ⟨rest, begins, reads⟩ := Option.bind_eq_some_iff.mp declares
  obtain ⟨fields, frame, _, rfl⟩ := Signature.parse?_eq_some_iff.mp reads
  rw [← List.isPrefixOf?_eq_some_iff_append_eq.mp begins] at free
  refine ⟨fields, fun newline => free ?_⟩
  simp only [Signature.Frame.around, List.mem_append, List.mem_cons]
  rcases newline_mem_plainLine_iff.mp newline with inside | inside | inside | inside <;>
    simp [inside]

/-! ### Reading the plain source -/

/-- The frame of a plain line. -/
def Signature.Frame.plain : Signature.Frame :=
  { lead := [' '], gap := [' '], space := [], tail := [] }

theorem Signature.Frame.plain_wellFormed : Signature.Frame.plain.WellFormed where
  lead := List.forall_mem_singleton.mpr rfl
  gap := List.forall_mem_singleton.mpr rfl
  gapStart := rfl
  space := List.forall_mem_nil _
  spaceStart := by rintro c ⟨⟩

theorem declared?_plainLine (exportMacro : Text) {signature : Signature}
    (fields : signature.WellFormed) :
    declared? exportMacro (signature.plainLine exportMacro) = some signature := by
  have framed : signature.plainLine exportMacro =
      exportMacro ++ Signature.Frame.plain.around signature := by
    simp [Signature.plainLine, Signature.Frame.around, Signature.Frame.plain]
  have begins : exportMacro.isPrefixOf? (signature.plainLine exportMacro) =
      some (Signature.Frame.plain.around signature) :=
    List.isPrefixOf?_eq_some_iff_append_eq.mpr framed.symm
  rw [declared?, begins, Option.bind_some]
  exact Signature.parse?_around fields Signature.Frame.plain_wellFormed

section Plain

variable {exportMacro exportAttribute : Text} {functions : List Signature}

theorem plainDefinition_eq (exportMacro exportAttribute : Text) :
    plainDefinition exportMacro exportAttribute =
      "#define".toList ++ ([' '] ++ (exportMacro ++ ([' '] ++ (exportAttribute ++ [' '])))) := by
  have directive : "#define ".toList = "#define".toList ++ [' '] := rfl
  unfold plainDefinition
  rw [directive]
  simp only [List.append_assoc]

/-- The line of the definition binds the macro. -/
theorem boundMacro?_plainDefinition (nonempty : exportMacro ≠ [])
    (solid : ∀ c ∈ exportMacro, Text.isBlank c = false) :
    boundMacro? exportAttribute (plainDefinition exportMacro exportAttribute) =
      some exportMacro := by
  have occurs : exportAttribute.occursIn (plainDefinition exportMacro exportAttribute) = true :=
    Text.occursIn_iff.mpr ⟨"#define ".toList ++ exportMacro ++ [' '], [' '], rfl⟩
  have defines : Definition.name? (plainDefinition exportMacro exportAttribute) =
      some exportMacro :=
    Definition.name?_eq_some_iff.mpr ⟨nonempty, solid, [' '], [' '] ++ (exportAttribute ++ [' ']),
      List.cons_ne_nil _ _, List.forall_mem_singleton.mpr rfl, stops_cons rfl,
      plainDefinition_eq _ _⟩
  rw [boundMacro?, if_pos occurs, defines]

/-- A macro without blanks that begins the line of its own definition is within `#define`. -/
theorem not_prefix_plainDefinition (solid : ∀ c ∈ exportMacro, Text.isBlank c = false)
    (apart : ¬ exportMacro <+: "#define".toList) :
    exportMacro.isPrefixOf? (plainDefinition exportMacro exportAttribute) = none := by
  refine Option.eq_none_iff_forall_ne_some.mpr fun rest begins => ?_
  have whole := List.isPrefixOf?_eq_some_iff_append_eq.mp begins
  rw [plainDefinition_eq] at whole
  rcases List.append_eq_append_iff.mp whole with ⟨front, directive, _⟩ | ⟨back, longer, ends⟩
  · exact apart ⟨front, directive.symm⟩
  · cases back with
    | nil => exact apart (longer ▸ List.append_nil _ ▸ List.prefix_rfl)
    | cons c later =>
      -- Such a macro has the space behind `#define` in it.
      obtain rfl : ' ' = c := (List.cons.inj ends).1
      have inside : ' ' ∈ exportMacro := by
        rw [longer]
        exact List.mem_append_right _ List.mem_cons_self
      cases solid ' ' inside

theorem unreadable_plainLines (solid : ∀ c ∈ exportMacro, Text.isBlank c = false)
    (apart : ¬ exportMacro <+: "#define".toList)
    (fields : ∀ signature ∈ functions, signature.WellFormed) {line : Text}
    (member : line ∈ plainLines exportMacro exportAttribute functions) :
    unreadable exportMacro line = false := by
  rcases List.mem_cons.mp member with rfl | declaration
  · rw [unreadable, not_prefix_plainDefinition solid apart]
    rfl
  · obtain ⟨signature, found, rfl⟩ := List.mem_map.mp declaration
    obtain ⟨rest, begins, reads⟩ :=
      Option.bind_eq_some_iff.mp (declared?_plainLine exportMacro (fields signature found))
    rw [unreadable, begins, Option.any_some, reads]
    rfl

/-- **The lines of a plain source declare its functions**, and none of them is skipped. -/
theorem ofLines_plainLines (solid : ∀ c ∈ exportMacro, Text.isBlank c = false)
    (apart : ¬ exportMacro <+: "#define".toList)
    (fields : ∀ signature ∈ functions, signature.WellFormed) :
    Extraction.ofLines exportMacro (plainLines exportMacro exportAttribute functions) =
      { functions, skipped := [] } := by
  have definition : declared? exportMacro (plainDefinition exportMacro exportAttribute) = none := by
    rw [declared?, not_prefix_plainDefinition solid apart, Option.bind_none]
  have declarations : (functions.map (Signature.plainLine exportMacro)).filterMap
      (declared? exportMacro) = functions := by
    rw [List.filterMap_map, List.filterMap_congr (g := some), List.filterMap_some]
    intro signature found
    exact declared?_plainLine exportMacro (fields signature found)
  have found : (Extraction.ofLines exportMacro
      (plainLines exportMacro exportAttribute functions)).functions = functions := by
    rw [functions_ofLines, plainLines, List.filterMap_cons_none definition, declarations]
  have skipped : (Extraction.ofLines exportMacro
      (plainLines exportMacro exportAttribute functions)).skipped = [] := by
    rw [skipped_ofLines, List.map_eq_nil_iff, List.filter_eq_nil_iff]
    rintro ⟨line, number⟩ member
    rw [unreadable_plainLines solid apart fields (List.fst_mem_of_mem_zipIdx member)]
    exact Bool.false_ne_true
  exact Extraction.ext found skipped

/-- The plain source has the plain lines. -/
theorem lines_plainLines (solid : ∀ c ∈ exportMacro, Text.isBlank c = false)
    (attributeFree : '\n' ∉ exportAttribute)
    (declarationsFree : ∀ signature ∈ functions, '\n' ∉ signature.plainLine exportMacro) :
    Text.lines ((plainLines exportMacro exportAttribute functions).flatMap (· ++ ['\n'])) =
      plainLines exportMacro exportAttribute functions := by
  apply Text.lines_flatMap_newline
  intro line member
  rcases List.mem_cons.mp member with rfl | declaration
  · have macroFree : '\n' ∉ exportMacro := fun inside => by
      cases solid '\n' inside
    constructor
    · rw [plainDefinition_eq]
      simp [macroFree, attributeFree]
    · unfold plainDefinition
      rw [List.getLast?_concat]
      decide
  · obtain ⟨signature, found, rfl⟩ := List.mem_map.mp declaration
    refine ⟨declarationsFree signature found, ?_⟩
    rw [Signature.plainLine, List.getLast?_concat]
    decide

end Plain

/-- **The plain source of an outcome is scanned to that outcome.** Whatever the source text and the
attribute, if the scan succeeds and its macro is not the beginning of `#define`, then the source
made of the line of the definition and one line for each function, in order, is scanned to the same
macro and the same functions, and no line of it is skipped. The time and the names given to the
second scan do not matter. -/
theorem rescan_plainSource (scanner : Scanner) (source text : Text) (version : Int64)
    (outcome : Outcome)
    (succeeds : (scanner.scanText source text version).result = .ok outcome)
    (apart : ¬ outcome.exportMacro <+: "#define".toList)
    (later : Clock) (newSource : Text) (newVersion : Int64) :
    (({ scanner with clock := later } : Scanner).scanText newSource
        (outcome.plainSource scanner.exportAttribute) newVersion).result =
      .ok
        { exportMacro := outcome.exportMacro
          manifest :=
            { schemaVersion := newVersion
              source := newSource
              timestamp := later.now
              functions := outcome.manifest.functions }
          skipped := []
          output? := none } := by
  obtain ⟨bound, shape⟩ := Scanner.scanText_eq_ok_iff.mp succeeds
  obtain ⟨⟨definition, member, occurs⟩, nonempty, solid⟩ := word_of_exportMacro? bound
  have attributeFree : '\n' ∉ scanner.exportAttribute := fun newline =>
    Text.not_mem_of_mem_lines member (occurs.subset newline)
  have declared : ∀ signature ∈ outcome.manifest.functions,
      signature.WellFormed ∧ '\n' ∉ signature.plainLine outcome.exportMacro := by
    intro signature found
    rw [shape, Scanner.outcomeOf, functions_ofLines] at found
    obtain ⟨line, inside, declares⟩ := List.mem_filterMap.mp found
    exact wellFormed_of_declared declares (Text.not_mem_of_mem_lines inside)
  have lines : (outcome.plainSource scanner.exportAttribute).lines =
      plainLines outcome.exportMacro scanner.exportAttribute outcome.manifest.functions :=
    lines_plainLines solid attributeFree fun signature found => (declared signature found).2
  have boundAgain : exportMacro? scanner.exportAttribute
      (outcome.plainSource scanner.exportAttribute).lines = some outcome.exportMacro := by
    rw [lines, exportMacro?_eq_findSome?, plainLines, List.findSome?_cons,
      boundMacro?_plainDefinition nonempty solid]
  have extracted : Extraction.ofLines outcome.exportMacro
      (plainLines outcome.exportMacro scanner.exportAttribute outcome.manifest.functions) =
        { functions := outcome.manifest.functions, skipped := [] } :=
    ofLines_plainLines solid apart fun signature found => (declared signature found).1
  rw [Scanner.scanText_result]
  simp only
  rw [boundAgain]
  simp only [Scanner.outcomeOf, lines, extracted]

/-- A macro of punctuation, a return type and arguments that end in a carriage return, a name with a
tab in it, an attribute that ends in a carriage return, and a line that is skipped. -/
theorem rescan_plainSource_odd :
    let scanner : Scanner :=
      { exportAttribute := "x\r".toList, indent := 3, clock := .fixed "now".toList }
    let text := "#define +( x\r\r\n+(\tint\r \tf\tg ((a\r);\n+(\n".toList
    let found : Outcome :=
      { exportMacro := "+(".toList
        manifest :=
          { schemaVersion := 1, source := "a.c".toList, timestamp := "now".toList,
            functions :=
              [{ name := "f\tg".toList, returnType := "int\r".toList, args := "(a\r".toList }] }
        skipped := [3]
        output? := none }
    (scanner.scanText "a.c".toList text 1).result = .ok found ∧
      ¬ found.exportMacro <+: "#define".toList ∧
      found.plainSource scanner.exportAttribute =
        "#define +( x\r \n+( int\r f\tg((a\r)\n".toList ∧
      (scanner.scanText "a.c".toList (found.plainSource scanner.exportAttribute) 1).result =
        .ok { found with skipped := [] } := by
  intro scanner text found
  have succeeds : (scanner.scanText "a.c".toList text 1).result = .ok found := by rfl
  have apart : ¬ found.exportMacro <+: "#define".toList := by decide
  exact ⟨succeeds, apart, by decide,
    rescan_plainSource scanner _ text 1 found succeeds apart scanner.clock "a.c".toList 1⟩

end ExportManifest
