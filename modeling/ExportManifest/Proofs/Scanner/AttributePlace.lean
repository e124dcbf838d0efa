/-
**Where a definition has its attribute.**

The search for the macro asks two things of a line, that it is a definition and that the attribute
occurs in it, and does not compare the two. So the attribute need not stand in the body of the
definition, behind the name: an occurrence that begins in the name, or still before it, counts as
well, and a line with no other occurrence is taken like any other.

* `Definition.BindsInBody`, `Definition.MentionsAhead`: the two kinds of definitions with the
  attribute, by where it occurs.
* `boundMacro?_eq_some_iff_place`, `exportMacro?_eq_some_iff_place`: **both kinds bind a macro**,
  and the first line of either kind has it.
* `macro_of_first_mention`: that line has the attribute in its body if the source has no line of the
  second kind, and need not otherwise.
* `guard_taken_for_definition`: a source in which the name of an include guard is taken.
-/

import ExportManifest.Proofs.Scanner.FirstDefinition

namespace ExportManifest

namespace Definition

/-- The line defines the name, and the attribute occurs in the body, behind the name. -/
def BindsInBody (exportAttribute line name : Text) : Prop :=
  ∃ gaps body, Parts line gaps name body ∧ exportAttribute <:+: body

/-- The line defines the name and the attribute occurs in it, but every occurrence begins in the
name or before it. -/
def MentionsAhead (exportAttribute line name : Text) : Prop :=
  ∃ gaps body, Parts line gaps name body ∧ exportAttribute <:+: line ∧
    ∀ before after, line = before ++ exportAttribute ++ after →
      before.length < ("#define".toList ++ gaps ++ name).length

/-! ### The body of a definition -/

/-- What follows the name on a line that defines one. -/
def body (line : Text) : Text :=
  ((line.drop "#define".toList.length).dropWhile Text.isGap).dropWhile fun c => !Text.isBlank c

theorem Parts.body_eq {line gaps name rest : Text} (parts : Parts line gaps name rest) :
    body line = rest := by
  have solid : ∀ c ∈ name, (!Text.isBlank c) = true := fun c member => by
    rw [Text.isBlank_eq_false_iff.mpr (parts.name c member)]
    rfl
  have nameStart : Stops Text.isGap (name ++ rest) := by
    rw [stops_append_iff parts.name_ne_nil]
    intro c first
    refine Bool.eq_false_iff.mpr fun gap => ?_
    exact parts.name c (List.mem_of_mem_head? first) (Text.isBlank_iff.mp (isBlank_of_isGap gap))
  have allGaps : ∀ c ∈ gaps, Text.isGap c = true := fun c member =>
    Text.isGap_iff.mpr (parts.gaps c member)
  rw [body, parts.whole, List.append_assoc, List.append_assoc, List.drop_left,
    dropWhile_of_stops allGaps nameStart,
    dropWhile_of_stops solid (stops_not_isBlank_iff.mpr parts.rest)]

/-- **An occurrence begins before the second part, or lies in it.** -/
theorem occurs_only_ahead_iff {pattern front back : Text} :
    (∀ before after, front ++ back = before ++ pattern ++ after →
        before.length < front.length) ↔ ¬ pattern <:+: back := by
  constructor
  · rintro ahead ⟨before, after, rfl⟩
    have behind := ahead (front ++ before) after (by simp only [List.append_assoc])
    rw [List.length_append] at behind
    omega
  · intro absent before after same
    by_contra late
    have cut := congrArg (List.drop front.length) same
    rw [List.drop_left, List.append_assoc,
      List.drop_append_of_le_length (Nat.le_of_not_lt late), ← List.append_assoc] at cut
    exact absent ⟨_, _, cut.symm⟩

variable {exportAttribute line name : Text}

theorem bindsInBody_iff :
    BindsInBody exportAttribute line name ↔
      name? line = some name ∧ exportAttribute <:+: body line := by
  rw [name?_eq_some_iff_parts]
  constructor
  · rintro ⟨gaps, rest, parts, occurs⟩
    exact ⟨⟨gaps, rest, parts⟩, parts.body_eq.symm ▸ occurs⟩
  · rintro ⟨⟨gaps, rest, parts⟩, occurs⟩
    exact ⟨gaps, rest, parts, parts.body_eq ▸ occurs⟩

theorem mentionsAhead_iff :
    MentionsAhead exportAttribute line name ↔
      name? line = some name ∧ exportAttribute <:+: line ∧ ¬ exportAttribute <:+: body line := by
  rw [name?_eq_some_iff_parts, ← exists_and_right]
  refine exists_congr fun gaps => ?_
  rw [← exists_and_right]
  refine exists_congr fun rest => and_congr_right fun parts => and_congr_right fun _ => ?_
  rw [parts.body_eq, ← occurs_only_ahead_iff, ← parts.whole]

instance : Decidable (BindsInBody exportAttribute line name) :=
  decidable_of_iff (name? line = some name ∧ exportAttribute.occursIn (body line) = true) (by
    rw [Text.occursIn_iff, bindsInBody_iff])

instance : Decidable (MentionsAhead exportAttribute line name) :=
  decidable_of_iff (name? line = some name ∧ exportAttribute.occursIn line = true ∧
    exportAttribute.occursIn (body line) = false) (by
      rw [← Bool.not_eq_true, Text.occursIn_iff, Text.occursIn_iff, mentionsAhead_iff])

end Definition

/-! ### The first line with the attribute -/

section Search

open Definition

/-- **A line binds a macro wherever it has the attribute.** -/
theorem boundMacro?_eq_some_iff_place {exportAttribute line name : Text} :
    boundMacro? exportAttribute line = some name ↔
      BindsInBody exportAttribute line name ∨ MentionsAhead exportAttribute line name := by
  rw [boundMacro?_eq_some_iff, bindsInBody_iff, mentionsAhead_iff]
  constructor
  · rintro ⟨occurs, defines⟩
    by_cases behind : exportAttribute <:+: body line
    · exact Or.inl ⟨defines, behind⟩
    · exact Or.inr ⟨defines, occurs, behind⟩
  · rintro (⟨defines, behind⟩ | ⟨defines, occurs, _⟩)
    · obtain ⟨gaps, rest, parts⟩ := name?_eq_some_iff_parts.mp defines
      rw [parts.body_eq] at behind
      exact ⟨parts.whole ▸ behind.trans (List.suffix_append _ rest).isInfix, defines⟩
    · exact ⟨occurs, defines⟩

theorem exportMacro?_eq_some_iff_place {exportAttribute name : Text} {lines : List Text} :
    exportMacro? exportAttribute lines = some name ↔
      ∃ earlier line later, lines = earlier ++ [line] ++ later ∧
        (BindsInBody exportAttribute line name ∨ MentionsAhead exportAttribute line name) ∧
        ∀ other ∈ earlier, ∀ otherName, ¬ BindsInBody exportAttribute other otherName ∧
          ¬ MentionsAhead exportAttribute other otherName := by
  rw [exportMacro?_eq_findSome?, List.findSome?_eq_some_iff]
  simp only [Option.eq_none_iff_forall_ne_some, ne_eq, boundMacro?_eq_some_iff_place, not_or,
    List.append_assoc, List.singleton_append]

/-- **The macro is that of the first definition with the attribute, wherever it stands there.** A
source has a macro exactly if some line defines it and has the attribute, in the body or only ahead
of it, and no line before does either. So a definition with the attribute only in its name is not
passed over, whatever follows it. If the source has no line of that kind, the macro is bound to the
attribute: the attribute occurs behind the macro on the line that defines it. -/
theorem macro_of_first_mention (exportAttribute : Text) (lines : List Text) :
    (∀ name, exportMacro? exportAttribute lines = some name ↔
      ∃ earlier line later, lines = earlier ++ [line] ++ later ∧
        (BindsInBody exportAttribute line name ∨ MentionsAhead exportAttribute line name) ∧
        ∀ other ∈ earlier, ∀ otherName, ¬ BindsInBody exportAttribute other otherName ∧
          ¬ MentionsAhead exportAttribute other otherName) ∧
    ((∀ line ∈ lines, ∀ name, ¬ MentionsAhead exportAttribute line name) →
      ∀ name, exportMacro? exportAttribute lines = some name →
        ∃ earlier line later, lines = earlier ++ [line] ++ later ∧
          BindsInBody exportAttribute line name ∧
          ∀ other ∈ earlier, ∀ otherName, ¬ BindsInBody exportAttribute other otherName) := by
  refine ⟨fun name => exportMacro?_eq_some_iff_place, fun neverAhead name found => ?_⟩
  obtain ⟨earlier, line, later, rfl, bound, unbound⟩ := exportMacro?_eq_some_iff_place.mp found
  have member : line ∈ earlier ++ [line] ++ later := by simp
  exact ⟨earlier, line, later, rfl, bound.resolve_right (neverAhead line member name),
    fun other inside otherName => (unbound other inside otherName).1⟩

/-- A source of an include guard whose name begins with the attribute, and of a definition. -/
def guardedSource : List Text :=
  ["#define EXPORT_H".toList, "#define API EXPORT".toList]

/-- In the source of the guard, the guard is what binds the macro. In one with a mention in a
declaration, and with a definition that has the attribute in a comment, no definition has it only
ahead of its body, and the macro is bound to it. -/
theorem macro_of_first_mention_guarded :
    let exportAttribute := "EXPORT".toList
    let commented := ["int EXPORT;".toList, "#define\tAPI /* EXPORT */".toList]
    MentionsAhead exportAttribute "#define EXPORT_H".toList "EXPORT_H".toList ∧
      exportMacro? exportAttribute guardedSource = some "EXPORT_H".toList ∧
      (∀ line ∈ commented, ∀ name, ¬ MentionsAhead exportAttribute line name) ∧
      exportMacro? exportAttribute commented = some "API".toList ∧
      ∃ earlier line later, commented = earlier ++ [line] ++ later ∧
        BindsInBody exportAttribute line "API".toList := by
  intro exportAttribute commented
  have ahead : MentionsAhead exportAttribute "#define EXPORT_H".toList "EXPORT_H".toList := by
    decide
  have guarded : exportMacro? exportAttribute guardedSource = some "EXPORT_H".toList :=
    ((macro_of_first_mention exportAttribute guardedSource).1 _).mpr
      ⟨[], _, _, rfl, Or.inr ahead, List.forall_mem_nil _⟩
  have neverAhead : ∀ line ∈ commented, ∀ name, ¬ MentionsAhead exportAttribute line name := by
    intro line member name both
    have excluded : ∀ line ∈ commented,
        name? line = none ∨ Text.occursIn exportAttribute (body line) = true := by decide
    obtain ⟨defines, _, absent⟩ := mentionsAhead_iff.mp both
    rcases excluded line member with undefined | occurs
    · rw [undefined] at defines
      cases defines
    · exact absent (Text.occursIn_iff.mp occurs)
  have found : exportMacro? exportAttribute commented = some "API".toList := by rfl
  obtain ⟨earlier, line, later, shape, bound, _⟩ :=
    (macro_of_first_mention exportAttribute commented).2 neverAhead _ found
  exact ⟨ahead, guarded, neverAhead, found, earlier, line, later, shape, bound⟩

/-- **An include guard is taken for the definition of the attribute**: the macro that is found for
an attribute that is not empty is defined by no line with the attribute in its body, though a later
line binds another name in that way. -/
theorem guard_taken_for_definition :
    "EXPORT".toList ≠ [] ∧
      exportMacro? "EXPORT".toList guardedSource = some "EXPORT_H".toList ∧
      (∀ line ∈ guardedSource, ¬ BindsInBody "EXPORT".toList line "EXPORT_H".toList) ∧
      ∃ line ∈ guardedSource, BindsInBody "EXPORT".toList line "API".toList := by
  refine ⟨by decide, by rfl, by decide, ?_⟩
  exact ⟨"#define API EXPORT".toList, by decide, by decide⟩

end Search

end ExportManifest
