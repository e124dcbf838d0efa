/-
**Every line that begins with the macro is accounted for.**

Extraction looks at the lines that begin with the macro and at nothing else. What stands behind the
macro on such a line is read as one signature, or the line is skipped, and never both. So functions
and skipped lines are together as many as these lines, and all other lines only take up numbers.

* `declarations`: what the lines of a source say behind the macro, in their order.
* `functions_eq_declarations`, `length_skipped`: the functions, and how many lines are skipped,
  follow from the declarations alone.
* `mem_skipped_iff`: which lines are skipped does depend on the other lines, by their number.
* `extraction_accounts_for_lines`: **nothing is lost, invented, repeated or moved.**
-/

import ExportManifest.Proofs.Scanner.Log

namespace ExportManifest

/-! ### What the lines declare -/

/-- The lines that begin with the macro. -/
def candidates (exportMacro : Text) (lines : List Text) : List Text :=
  lines.filter fun line => exportMacro <+: line

/-- What stands behind the macro on the lines that begin with it. -/
def declarations (exportMacro : Text) (lines : List Text) : List Text :=
  (candidates exportMacro lines).map (List.drop exportMacro.length)

theorem isPrefixOf?_eq_drop (exportMacro line : Text) :
    exportMacro.isPrefixOf? line =
      if exportMacro <+: line then some (line.drop exportMacro.length) else none := by
  by_cases begins : exportMacro <+: line
  · obtain ⟨rest, rfl⟩ := begins
    rw [if_pos (List.prefix_append exportMacro rest), List.drop_left]
    exact List.isPrefixOf?_eq_some_iff_append_eq.mpr rfl
  · rw [if_neg begins, Option.eq_none_iff_forall_ne_some]
    intro rest found
    exact begins ⟨rest, List.isPrefixOf?_eq_some_iff_append_eq.mp found⟩

theorem declarations_eq_filterMap (exportMacro : Text) (lines : List Text) :
    declarations exportMacro lines = lines.filterMap exportMacro.isPrefixOf? := by
  rw [declarations, candidates, ← List.filterMap_eq_map, List.filterMap_filter]
  refine List.filterMap_congr fun line _ => ?_
  rw [isPrefixOf?_eq_drop]
  simp only [decide_eq_true_eq, Function.comp_apply]

/-- **The functions are the declarations that can be read**, in their order. -/
theorem functions_eq_declarations (exportMacro : Text) (lines : List Text) :
    (Extraction.ofLines exportMacro lines).functions =
      (declarations exportMacro lines).filterMap Signature.parse? := by
  rw [functions_ofLines, declarations_eq_filterMap, List.filterMap_filterMap]
  rfl

/-- **The skipped lines are as many as the declarations that cannot be read.** -/
theorem length_skipped (exportMacro : Text) (lines : List Text) :
    (Extraction.ofLines exportMacro lines).skipped.length =
      (declarations exportMacro lines).countP fun rest => (Signature.parse? rest).isNone := by
  have unnumbered : (lines.zipIdx 1).countP (fun numbered => unreadable exportMacro numbered.1) =
      lines.countP (unreadable exportMacro) := by
    rw [← List.zipIdx_map_fst 1 lines, List.countP_map, List.zipIdx_map_fst]
    rfl
  rw [skipped_ofLines, List.length_map, ← List.countP_eq_length_filter, unnumbered,
    declarations_eq_filterMap, List.countP_filterMap]
  refine congrArg (List.countP · lines) (funext fun line => ?_)
  unfold unreadable
  cases exportMacro.isPrefixOf? line <;> rfl

theorem length_functions_add_length_skipped (exportMacro : Text) (lines : List Text) :
    (Extraction.ofLines exportMacro lines).functions.length +
        (Extraction.ofLines exportMacro lines).skipped.length =
      (candidates exportMacro lines).length := by
  have unread : (fun rest => decide ¬(Signature.parse? rest).isSome = true) =
      fun rest => (Signature.parse? rest).isNone := by
    funext rest
    cases Signature.parse? rest <;> rfl
  have each := List.length_eq_countP_add_countP (l := declarations exportMacro lines)
    fun rest => (Signature.parse? rest).isSome
  rw [unread] at each
  rw [functions_eq_declarations, length_skipped, List.length_filterMap_eq_countP, ← each,
    declarations, List.length_map]

/-! ### Which lines are skipped -/

theorem unreadable_iff {exportMacro line : Text} :
    unreadable exportMacro line = true ↔
      ∃ rest, line = exportMacro ++ rest ∧ Signature.parse? rest = none := by
  rw [unreadable, Option.any_eq_true]
  refine exists_congr fun rest => ?_
  rw [List.isPrefixOf?_eq_some_iff_append_eq, Option.isNone_iff_eq_none, eq_comm]

theorem skipped_numbersOf (exportMacro : Text) (lines : List Text) :
    NumbersOf (fun line => unreadable exportMacro line = true) lines
      (Extraction.ofLines exportMacro lines).skipped := by
  rw [skipped_ofLines]
  exact numbersOf_filter (unreadable exportMacro) lines

/-- **A line is skipped** exactly if it begins with the macro and no signature follows. -/
theorem mem_skipped_iff {exportMacro : Text} {lines : List Text} {number : Nat} :
    number ∈ (Extraction.ofLines exportMacro lines).skipped ↔
      1 ≤ number ∧ number ≤ lines.length ∧
        ∃ rest, lines[number - 1]? = some (exportMacro ++ rest) ∧
          Signature.parse? rest = none := by
  rw [(skipped_numbersOf exportMacro lines).mem_iff]
  constructor
  · rintro ⟨index, line, rfl, found, skipped⟩
    obtain ⟨rest, rfl, unread⟩ := unreadable_iff.mp skipped
    obtain ⟨inside, _⟩ := List.getElem?_eq_some_iff.mp found
    exact ⟨Nat.le_add_left 1 index, inside, rest, found, unread⟩
  · rintro ⟨positive, _, rest, found, unread⟩
    exact ⟨number - 1, _, (Nat.sub_add_cancel positive).symm, found,
      unreadable_iff.mpr ⟨rest, rfl, unread⟩⟩

/-! ### The whole account -/

/-- **Extraction loses, invents, repeats and moves nothing.** The functions are read from what
follows the macro on the lines that begin with it, one line after another. The skipped numbers
increase, and are those of the lines that begin with the macro and hold no signature behind it.
Every line that begins with the macro is in one of the two. Lines that do not begin with it change
neither the functions nor how many lines are skipped. -/
theorem extraction_accounts_for_lines (exportMacro : Text) (lines : List Text) :
    let extraction := Extraction.ofLines exportMacro lines
    extraction.functions =
        ((candidates exportMacro lines).map
          (List.drop exportMacro.length)).filterMap Signature.parse? ∧
      extraction.skipped.Pairwise (· < ·) ∧
      (∀ number, number ∈ extraction.skipped ↔
        1 ≤ number ∧ number ≤ lines.length ∧
          ∃ rest, lines[number - 1]? = some (exportMacro ++ rest) ∧
            Signature.parse? rest = none) ∧
      extraction.functions.length + extraction.skipped.length =
        (candidates exportMacro lines).length ∧
      ∀ others, candidates exportMacro others = candidates exportMacro lines →
          (Extraction.ofLines exportMacro others).functions = extraction.functions ∧
            (Extraction.ofLines exportMacro others).skipped.length = extraction.skipped.length := by
  intro extraction
  refine ⟨functions_eq_declarations exportMacro lines,
    (skipped_numbersOf exportMacro lines).increasing, fun number => mem_skipped_iff,
    length_functions_add_length_skipped exportMacro lines, fun others same => ?_⟩
  have declared : declarations exportMacro others = declarations exportMacro lines :=
    congrArg (List.map (List.drop exportMacro.length)) same
  constructor
  · rw [functions_eq_declarations, declared, ← functions_eq_declarations]
  · rw [length_skipped, declared, ← length_skipped]

/-- A source of a declaration that is repeated, a line that is only the macro, an indented
declaration and an empty line. Without the last two the second line is skipped as the first. -/
theorem extraction_accounts_for_lines_repeated :
    let exportMacro := "API".toList
    let lines := [[], "API".toList, "API int f(a)".toList, " API int g()".toList,
      "API int f(a)".toList]
    let others := ["API".toList, "API int f(a)".toList, "API int f(a)".toList]
    let signature : Signature := { name := ['f'], returnType := "int".toList, args := ['a'] }
    candidates exportMacro others = candidates exportMacro lines ∧
      Extraction.ofLines exportMacro lines =
        { functions := [signature, signature], skipped := [2] } ∧
      (Extraction.ofLines exportMacro others).functions = [signature, signature] ∧
      (Extraction.ofLines exportMacro others).skipped.length = 1 := by
  intro exportMacro lines others signature
  have same : candidates exportMacro others = candidates exportMacro lines := by decide
  have extracted : Extraction.ofLines exportMacro lines =
      { functions := [signature, signature], skipped := [2] } := by rfl
  obtain ⟨_, _, _, _, irrelevant⟩ := extraction_accounts_for_lines exportMacro lines
  obtain ⟨functions, skipped⟩ := irrelevant others same
  rw [extracted] at functions skipped
  exact ⟨same, extracted, functions, skipped⟩

end ExportManifest
