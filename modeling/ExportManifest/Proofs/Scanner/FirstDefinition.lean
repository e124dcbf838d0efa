/-
**The first definition of the attribute wins.**

Which lines are definitions is said here by the parts of a line alone: `Definition.Parts` cuts a line
into `#define`, the gaps behind it, the name and the rest, and `Definition.HasForm` says that a line
can be cut in this way for some name. The search for the macro takes the first line that contains
the attribute and has this form; lines that do only one of the two are passed over.

* `Definition.name?_eq_some_iff_parts`: the name of a line is the one between the gaps and the rest.
* `Definition.exists_parts_iff`: every line of this form has a name, because the characters that are
  not blank from its start on are one.
* `first_definition_wins`: **the macro is the name that the first such line defines**, and there is
  none if and only if there is no such line.
-/

import ExportManifest.Proofs.Scanner.Log
import ExportManifest.Proofs.Text.Blank

namespace ExportManifest

namespace Definition

/-- A line is cut into `#define`, one or more spaces and tabs, a name without white space, and a rest
that is empty or begins with white space. -/
structure Parts (line gaps name rest : Text) : Prop where
  whole : line = "#define".toList ++ gaps ++ name ++ rest
  gaps_ne_nil : gaps ≠ []
  gaps : ∀ c ∈ gaps, c ∈ [' ', '\t']
  name_ne_nil : name ≠ []
  name : ∀ c ∈ name, c ∉ Text.whiteSpace
  rest : ∀ c ∈ rest.head?, c ∈ Text.whiteSpace

/-- A line is `#define`, one or more spaces and tabs, a character that is not white space, and
anything behind it. -/
def HasForm (line : Text) : Prop :=
  ∃ gaps first rest, line = "#define".toList ++ gaps ++ [first] ++ rest ∧ gaps ≠ [] ∧
    (∀ c ∈ gaps, c ∈ [' ', '\t']) ∧ first ∉ Text.whiteSpace

theorem stops_not_isBlank_iff {text : Text} :
    Stops (fun c => !Text.isBlank c) text ↔ ∀ c ∈ text.head?, c ∈ Text.whiteSpace := by
  unfold Stops
  simp only [Bool.not_eq_false', Text.isBlank_iff]

/-- **A line defines the name that it can be cut at.** -/
theorem name?_eq_some_iff_parts {line name : Text} :
    name? line = some name ↔ ∃ gaps rest, Parts line gaps name rest := by
  rw [name?_eq_some_iff]
  simp only [stops_not_isBlank_iff, Text.isGap_iff, Text.isBlank_eq_false_iff]
  constructor
  · rintro ⟨named, solid, gaps, rest, gapped, allGaps, ends, rfl⟩
    exact ⟨gaps, rest, by simp only [List.append_assoc], gapped, allGaps, named, solid, ends⟩
  · rintro ⟨gaps, rest, parts⟩
    exact ⟨parts.name_ne_nil, parts.name, gaps, rest, parts.gaps_ne_nil, parts.gaps, parts.rest,
      by simp only [parts.whole, List.append_assoc]⟩

/-- **A line can be cut at some name** exactly if it has the form of a definition. -/
theorem exists_parts_iff {line : Text} :
    (∃ name gaps rest, Parts line gaps name rest) ↔ HasForm line := by
  constructor
  · rintro ⟨name, gaps, rest, parts⟩
    obtain ⟨first, others, rfl⟩ := List.exists_cons_of_ne_nil parts.name_ne_nil
    refine ⟨gaps, first, others ++ rest, ?_, parts.gaps_ne_nil, parts.gaps,
      parts.name first List.mem_cons_self⟩
    rw [parts.whole]
    simp
  · rintro ⟨gaps, first, rest, whole, gapped, allGaps, solid⟩
    -- The name is the whole run of characters that are not blank.
    have starts : (!Text.isBlank first) = true := by
      rw [Text.isBlank_eq_false_iff.mpr solid]
      rfl
    refine ⟨(first :: rest).takeWhile (fun c => !Text.isBlank c), gaps,
      (first :: rest).dropWhile (fun c => !Text.isBlank c), ?_, gapped, allGaps, ?_, ?_, ?_⟩
    · rw [List.append_assoc _ (List.takeWhile _ _), List.takeWhile_append_dropWhile, whole,
        List.append_assoc _ [first], List.singleton_append]
    · rw [List.takeWhile_cons_of_pos (p := fun c => !Text.isBlank c) starts]
      exact List.cons_ne_nil _ _
    · intro c member
      have inside := List.mem_takeWhile_imp member
      rw [Bool.not_eq_true'] at inside
      exact Text.isBlank_eq_false_iff.mp inside
    · exact stops_not_isBlank_iff.mp (stops_dropWhile _ _)

theorem name?_eq_none_iff {line : Text} : name? line = none ↔ ¬ HasForm line := by
  rw [← exists_parts_iff, Option.eq_none_iff_forall_ne_some, not_exists]
  exact forall_congr' fun name => not_congr name?_eq_some_iff_parts

end Definition

/-- A line that binds no macro lacks the attribute or the form of a definition. -/
theorem boundMacro?_eq_none_iff_form {exportAttribute line : Text} :
    boundMacro? exportAttribute line = none ↔
      ¬ (exportAttribute <:+: line ∧ Definition.HasForm line) := by
  rw [boundMacro?_eq_none_iff, Definition.name?_eq_none_iff, not_and]

/-- **The first definition of the attribute wins.** The macro of a source is a name exactly if some
line contains the attribute and is cut at that name as a definition, and no line before it both
contains the attribute and has the form of a definition. There is no macro exactly if no line does
both. -/
theorem first_definition_wins (exportAttribute : Text) (lines : List Text) :
    (∀ name, exportMacro? exportAttribute lines = some name ↔
      ∃ earlier line later, lines = earlier ++ [line] ++ later ∧
        exportAttribute <:+: line ∧
        (∃ gaps rest, Definition.Parts line gaps name rest) ∧
        ∀ other ∈ earlier, ¬ (exportAttribute <:+: other ∧ Definition.HasForm other)) ∧
    (exportMacro? exportAttribute lines = none ↔
      ∀ line ∈ lines, ¬ (exportAttribute <:+: line ∧ Definition.HasForm line)) := by
  rw [exportMacro?_eq_findSome?]
  constructor
  · intro name
    rw [List.findSome?_eq_some_iff]
    refine exists_congr fun earlier => exists_congr fun line => exists_congr fun later => ?_
    rw [List.append_assoc, List.singleton_append, boundMacro?_eq_some_iff,
      Definition.name?_eq_some_iff_parts, and_assoc]
    simp only [boundMacro?_eq_none_iff_form]
  · rw [List.findSome?_eq_none_iff]
    simp only [boundMacro?_eq_none_iff_form]

/-- A mention in a comment, an indented definition and one with a no-break space in place of a gap
are passed over; the definition behind them wins over a later one. Its name ends at an ideographic
space. -/
theorem first_definition_wins_passing :
    let earlier := ["// x".toList, " #define A x".toList, "#define\u00a0B x".toList]
    let line := "#define\t API\u3000x".toList
    Definition.Parts line "\t ".toList "API".toList "\u3000x".toList ∧
      exportMacro? "x".toList earlier = none ∧
      exportMacro? "x".toList (earlier ++ [line] ++ ["#define MINE x".toList]) =
        some "API".toList := by
  intro earlier line
  have gaps : "\t ".toList ⊆ [' ', '\t'] := by decide
  have solid : "API".toList.all fun c => c ∉ Text.whiteSpace := by decide
  have parts : Definition.Parts line "\t ".toList "API".toList "\u3000x".toList :=
    { whole := rfl
      gaps_ne_nil := by decide
      gaps := fun _ member => gaps member
      name_ne_nil := by decide
      name := by simpa using solid
      rest := by rintro c ⟨⟩; decide }
  have undefined : ∀ other ∈ earlier, Definition.name? other = none := by decide
  have passed : ∀ other ∈ earlier, ¬ ("x".toList <:+: other ∧ Definition.HasForm other) :=
    fun other member both => Definition.name?_eq_none_iff.mp (undefined other member) both.2
  refine ⟨parts, (first_definition_wins _ _).2.mpr passed, ?_⟩
  exact ((first_definition_wins _ _).1 _).mpr
    ⟨earlier, line, _, rfl, Text.occursIn_iff.mp rfl, ⟨_, _, parts⟩, passed⟩

end ExportManifest
