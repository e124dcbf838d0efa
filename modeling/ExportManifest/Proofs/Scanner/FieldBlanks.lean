/-
**Blanks that stay in the fields of a signature.**

A return type ends at a space, a tab or a parenthesis, and a name at a space or a parenthesis, while
the blanks between the fields are of five kinds. A blank that does not end the field before it stays
in that field: a form feed or a carriage return in the return type, and a tab as well in the name.

* `KeepsBlank`: a line that is read as a declaration with such a blank.
* `Signature.Reading.isToken_fields_iff`: **no other blank can stay**, on a line without a newline.
* `fields_single_tokens_iff`: the fields of all functions that a scan reports are single tokens
  exactly if no line keeps a blank.
* `tab_kept_in_name`: a source in which two lines do.
-/

import ExportManifest.Proofs.Scanner.MacroToken
import ExportManifest.Proofs.Signature.Readings

namespace ExportManifest

/-- The text is not empty and has no ASCII blank. -/
def IsToken (text : Text) : Prop :=
  text ≠ [] ∧ ∀ c ∈ text, c ∉ [' ', '\t', '\n', '\x0c', '\r']

/-- The line is read as a declaration, with a form feed or a carriage return in the return type, or
with one of these or a tab in the name. -/
def KeepsBlank (exportMacro line : Text) : Prop :=
  ∃ rest signature frame, line = exportMacro ++ rest ∧ Signature.Reading rest signature frame ∧
    ((∃ c ∈ signature.returnType, c ∈ ['\x0c', '\r']) ∨
      ∃ c ∈ signature.name, c ∈ ['\t', '\x0c', '\r'])

/-- A text that has none of the blanks that would end it is a token exactly if it has none of the
others. -/
theorem isToken_iff {text ends others : Text} (nonempty : text ≠ [])
    (cut : ∀ c ∈ text, c ∉ ends)
    (blanks : ∀ c, c ∈ [' ', '\t', '\n', '\x0c', '\r'] ↔ c ∈ ends ∨ c ∈ others) :
    IsToken text ↔ ¬ ∃ c ∈ text, c ∈ others := by
  constructor
  · rintro ⟨_, solid⟩ ⟨c, member, blank⟩
    exact solid c member ((blanks c).mpr (Or.inr blank))
  · intro absent
    refine ⟨nonempty, fun c member blank => ?_⟩
    rcases (blanks c).mp blank with ending | other
    · exact cut c member ending
    · exact absent ⟨c, member, other⟩

/-- A part of a line has no newline, and none of the characters that end it. -/
theorem not_mem_of_cut {field rest ends blanks : Text} (inside : field ⊆ rest)
    (free : '\n' ∉ rest) (cut : ∀ c ∈ field, c ∉ ends) (among : blanks ⊆ '\n' :: ends) :
    ∀ c ∈ field, c ∉ blanks := by
  intro c member blank
  rcases List.mem_cons.mp (among blank) with rfl | ending
  · exact free (inside member)
  · exact cut c member ending

/-! ### One line -/

/-- A line declares the signatures that can be read behind the macro. -/
theorem declared?_eq_some_iff_reading {exportMacro line : Text} {signature : Signature} :
    declared? exportMacro line = some signature ↔
      ∃ rest frame, line = exportMacro ++ rest ∧ Signature.Reading rest signature frame := by
  rw [declared?_eq_some_iff]
  refine exists_congr fun rest => ?_
  rw [exists_and_left, Signature.parse?_eq_some_iff, ← exists_and_left]
  exact and_congr_right fun _ => exists_congr fun frame => Signature.reading_iff.symm

namespace Signature.Reading

variable {rest : Text} {signature : Signature} {frame : Frame}

theorem returnType_cut (reading : Reading rest signature frame) (free : '\n' ∉ rest) :
    ∀ c ∈ signature.returnType, c ∉ [' ', '\t', '\n'] := by
  have inside : signature.returnType ⊆ rest := by
    intro c member
    rw [reading.whole]
    simp [member]
  exact not_mem_of_cut inside free reading.returnType (by decide)

theorem name_cut (reading : Reading rest signature frame) (free : '\n' ∉ rest) :
    ∀ c ∈ signature.name, c ∉ [' ', '\n'] := by
  have inside : signature.name ⊆ rest := by
    intro c member
    rw [reading.whole]
    simp [member]
  exact not_mem_of_cut inside free reading.name (by decide)

/-- **The return type and the name are single tokens** exactly if none of the blanks that do not end
them stands in them. -/
theorem isToken_fields_iff (reading : Reading rest signature frame) (free : '\n' ∉ rest) :
    (IsToken signature.returnType ∧ IsToken signature.name) ↔
      ¬ ((∃ c ∈ signature.returnType, c ∈ ['\x0c', '\r']) ∨
        ∃ c ∈ signature.name, c ∈ ['\t', '\x0c', '\r']) := by
  rw [not_or]
  refine and_congr
    (isToken_iff reading.returnType_ne_nil (reading.returnType_cut free) fun c => ?_)
    (isToken_iff reading.name_ne_nil (reading.name_cut free) fun c => ?_)
  · simp [or_assoc]
  · simp only [List.mem_cons, List.not_mem_nil, or_false]
    tauto

end Signature.Reading

/-! ### A whole source -/

/-- The functions that a scan reports are read on lines of the source, behind the macro. -/
theorem reading_of_mem_functions {scanner : Scanner} {source text : Text} {version : Int64}
    {outcome : Outcome} (succeeds : (scanner.scanText source text version).result = .ok outcome)
    {function : Signature} :
    function ∈ outcome.manifest.functions ↔
      ∃ line ∈ text.lines, ∃ rest frame, line = outcome.exportMacro ++ rest ∧
        Signature.Reading rest function frame := by
  obtain ⟨_, shape⟩ := Scanner.scanText_eq_ok_iff.mp succeeds
  have functions : outcome.manifest.functions =
      text.lines.filterMap (declared? outcome.exportMacro) := by
    rw [shape]
    exact functions_ofLines _ _
  rw [functions, List.mem_filterMap]
  simp only [declared?_eq_some_iff_reading]

/-- **When the fields of all functions are single tokens.** The return type and the name of a
function that a scan reports are never empty and have no space and no newline, the return type has
no tab, and the name does not begin with a blank. They are single tokens, without blanks of any
kind, exactly if no line of the source is read with a form feed or a carriage return in its return
type, or with one of these or a tab in its name. -/
theorem fields_single_tokens_iff (scanner : Scanner) (source text : Text) (version : Int64)
    (outcome : Outcome)
    (succeeds : (scanner.scanText source text version).result = .ok outcome) :
    (∀ function ∈ outcome.manifest.functions,
      function.returnType ≠ [] ∧ (∀ c ∈ function.returnType, c ∉ [' ', '\t', '\n']) ∧
        function.name ≠ [] ∧ (∀ c ∈ function.name, c ∉ [' ', '\n']) ∧
        ∀ c ∈ function.name.head?, c ∉ [' ', '\t', '\n', '\x0c', '\r']) ∧
    ((∀ function ∈ outcome.manifest.functions,
        IsToken function.returnType ∧ IsToken function.name) ↔
      ∀ line ∈ text.lines, ¬ KeepsBlank outcome.exportMacro line) := by
  have free : ∀ rest, outcome.exportMacro ++ rest ∈ text.lines → '\n' ∉ rest :=
    fun rest member newline =>
      Text.not_mem_of_mem_lines member (List.mem_append_right _ newline)
  simp only [reading_of_mem_functions succeeds]
  constructor
  · rintro function ⟨line, member, rest, frame, rfl, reading⟩
    exact ⟨reading.returnType_ne_nil, reading.returnType_cut (free rest member),
      reading.name_ne_nil, reading.name_cut (free rest member), reading.nameStart⟩
  · constructor
    · rintro tokens line member ⟨rest, signature, frame, rfl, reading, keeps⟩
      have single := tokens signature ⟨_, member, rest, frame, rfl, reading⟩
      exact (reading.isToken_fields_iff (free rest member)).mp single keeps
    · rintro never function ⟨line, member, rest, frame, rfl, reading⟩
      refine (reading.isToken_fields_iff (free rest member)).mpr fun keeps => ?_
      exact never _ member ⟨rest, function, frame, rfl, reading, keeps⟩

/-- A source with a tab between a name and its parenthesis, and with a form feed behind a return
type. -/
def tabbedSource : Text :=
  ("#define EXPORT __declspec(dllexport)\n" ++
    "EXPORT int add\t(int a);\nEXPORT int\x0c sub(void);\n").toList

/-- What a scan of that source finds. -/
def tabbedOutcome : Outcome :=
  { exportMacro := "EXPORT".toList
    manifest :=
      { schemaVersion := 1, source := "a.c".toList, timestamp := "now".toList,
        functions :=
          [{ name := "add\t".toList, returnType := "int".toList, args := "int a".toList },
            { name := "sub".toList, returnType := "int\x0c".toList, args := "void".toList }] }
    skipped := []
    output? := none }

theorem scan_tabbedSource :
    ((Scanner.initial (.fixed "now".toList)).scanText "a.c".toList tabbedSource 1).result =
      .ok tabbedOutcome := by
  rfl

/-- Some line of that source keeps a blank, because the first name found in it is no token. -/
theorem fields_single_tokens_iff_tabbed :
    ((Scanner.initial (.fixed "now".toList)).scanText "a.c".toList tabbedSource 1).result =
        .ok tabbedOutcome ∧
      ∃ line ∈ tabbedSource.lines, KeepsBlank "EXPORT".toList line := by
  obtain ⟨_, exactly⟩ := fields_single_tokens_iff _ _ _ _ _ scan_tabbedSource
  refine ⟨scan_tabbedSource, ?_⟩
  by_contra never
  have tokens := exactly.mpr fun line member keeps => never ⟨line, member, keeps⟩
  have named : IsToken "add\t".toList := (tokens _ List.mem_cons_self).2
  exact named.2 '\t' (by decide) (by decide)

/-- **Blanks stay in the fields**: of the two functions that a scan reports, the name of the first
has the tab in front of its parenthesis, and the return type of the second a form feed. -/
theorem tab_kept_in_name :
    ((Scanner.initial (.fixed "now".toList)).scanText "a.c".toList tabbedSource 1).result =
        .ok tabbedOutcome ∧
      (∃ function ∈ tabbedOutcome.manifest.functions, '\t' ∈ function.name) ∧
      ∃ function ∈ tabbedOutcome.manifest.functions, '\x0c' ∈ function.returnType := by
  refine ⟨scan_tabbedSource, ⟨_, List.mem_cons_self, ?_⟩, _,
    List.mem_cons_of_mem _ List.mem_cons_self, ?_⟩
  · show '\t' ∈ "add\t".toList
    decide
  · show '\x0c' ∈ "int\x0c".toList
    decide

end ExportManifest
