/-
**An attribute given as an argument.**

The option `--attribute` takes its value from the same argument, behind an equals sign, or from the
argument behind it. Arguments are taken from left to right, so it has to be shown that the option is
seen for what it is, whatever stands before it, and that nothing behind it gives another value.

* `Leaves`: what holds of the draft that arguments leave, if they do not end the run before it
  starts.
* `Keeps`: an attribute that is given stays as it is; `take_keeps` is the step, `takeAll_keeps` the
  run.
* `take_waiting`: **an option that waits takes the next argument as its value**, or the arguments
  cannot be understood.
* `GivesAttribute`: the option stands among the arguments, before any `--`.
* `exportAttribute?_of_run`: **the attribute that is given is the one of the run.**
* `ofArguments_attached`, `ofArguments_separate`: each attribute can be given behind an equals sign,
  and one that does not begin with a dash also as an argument of its own.
-/

import ExportManifest.CommandLine.Arguments
import Mathlib.Data.List.Basic

namespace ExportManifest

namespace Arguments.Draft

/-! ### What is given stays -/

/-- The arguments leave a draft of which the statement holds, or no run is asked for. -/
def Leaves (statement : Draft → Prop) : Except Invocation Draft → Prop
  | .ok draft => statement draft
  | .error invocation => ∀ arguments, invocation ≠ .run arguments

theorem leaves_misuse {statement : Draft → Prop} : Leaves statement (.error .misuse) :=
  nofun

theorem Leaves.imp {statement weaker : Draft → Prop} {result : Except Invocation Draft}
    (leaves : Leaves statement result) (implies : ∀ draft, statement draft → weaker draft) :
    Leaves weaker result := by
  cases result with
  | error invocation => exact leaves
  | ok draft => exact implies draft leaves

theorem Leaves.bind {between statement : Draft → Prop} {result : Except Invocation Draft}
    {step : Draft → Except Invocation Draft} (first : Leaves between result)
    (second : ∀ draft, between draft → Leaves statement (step draft)) :
    Leaves statement (result >>= step) := by
  cases result with
  | error invocation => exact first
  | ok draft => exact second draft first

/-- An attribute that is given stays as it is. -/
def Keeps (draft next : Draft) : Prop :=
  ∀ content ∈ draft.exportAttribute?, content ∈ next.exportAttribute?

/-- A change of other fields keeps the attribute. -/
theorem keeps_of_eq {draft next : Draft} (same : next.exportAttribute? = draft.exportAttribute?) :
    Keeps draft next := by
  intro content given
  rwa [same]

theorem Keeps.trans {draft middle next : Draft} (first : Keeps draft middle)
    (second : Keeps middle next) : Keeps draft next :=
  fun content given => second content (first content given)

/-- A step behind one that keeps the attribute keeps it too. -/
theorem leaves_keeps_bind {draft : Draft} {result : Except Invocation Draft}
    {step : Draft → Except Invocation Draft} (first : Leaves (Keeps draft) result)
    (second : ∀ middle, Leaves (Keeps middle) (step middle)) :
    Leaves (Keeps draft) (result >>= step) :=
  first.bind fun middle kept => (second middle).imp fun _ => kept.trans

section Steps

variable (draft : Draft)

theorem takeValue_keeps (value : Text) : Leaves (Keeps draft) (draft.takeValue value) := by
  unfold takeValue
  split
  · exact leaves_misuse
  · split
    · exact leaves_misuse
    · exact keeps_of_eq rfl

theorem takeOption_keeps (option : ValueOption) (value : Text) :
    Leaves (Keeps draft) (draft.takeOption option value) := by
  cases option with
  | exportAttribute =>
    rw [takeOption]
    split
    · exact leaves_misuse
    · -- There was none before.
      rename_i absent
      intro content given
      rw [Option.mem_def.mp given] at absent
      exact absurd rfl absent
  | settingsPath =>
    rw [takeOption]
    split
    · exact leaves_misuse
    · exact keeps_of_eq rfl

theorem takePlain_keeps (value : Text) : Leaves (Keeps draft) (draft.takePlain value) := by
  unfold takePlain
  split
  · exact takeOption_keeps draft _ value
  · exact takeValue_keeps draft value

theorem takeFlag_keeps (flag : Flag) : Leaves (Keeps draft) (draft.takeFlag flag) := by
  unfold takeFlag
  split
  · exact leaves_misuse
  · cases flag with
    | verbose =>
      simp only
      split
      · exact leaves_misuse
      · exact keeps_of_eq rfl
    | help => exact nofun
    | version => exact nofun

theorem takeLetters_cons (letter : Char) (later : Text) :
    draft.takeLetters (letter :: later) =
      match flagOfLetter? letter with
      | none => .error .misuse
      | some flag => draft.takeFlag flag >>= fun next => next.takeLetters later := by
  rw [takeLetters]
  cases flagOfLetter? letter with
  | none => rfl
  | some flag =>
    simp only
    cases draft.takeFlag flag <;> rfl

theorem takeLetters_keeps (letters : Text) : Leaves (Keeps draft) (draft.takeLetters letters) := by
  induction letters generalizing draft with
  | nil => exact keeps_of_eq rfl
  | cons letter later ih =>
    rw [takeLetters_cons]
    split
    · exact leaves_misuse
    · exact leaves_keeps_bind (takeFlag_keeps draft _) ih

theorem takeWord_keeps (argument word : Text) (attached? : Option Text) :
    Leaves (Keeps draft) (draft.takeWord argument word attached?) := by
  unfold takeWord
  split
  · split
    · exact leaves_misuse
    · exact takeFlag_keeps draft _
  · split
    · exact leaves_misuse
    · split
      · exact takeOption_keeps draft _ _
      · exact keeps_of_eq rfl
  · split
    · exact takePlain_keeps draft argument
    · exact leaves_misuse

/-- One argument keeps the attribute. -/
theorem take_keeps (argument : Text) : Leaves (Keeps draft) (draft.take argument) := by
  unfold take
  split
  · exact takeWord_keeps draft _ _ _
  · split
    · exact takePlain_keeps draft _
    · exact takeLetters_keeps draft _
  · exact takePlain_keeps draft argument

theorem foldlM_takeValue_keeps (values : List Text) :
    Leaves (Keeps draft) (values.foldlM takeValue draft) := by
  induction values generalizing draft with
  | nil => exact keeps_of_eq rfl
  | cons value later ih =>
    rw [List.foldlM_cons]
    exact leaves_keeps_bind (takeValue_keeps draft value) ih

/-- An argument other than `--` is taken before those behind it. -/
theorem takeAll_cons {argument : Text} (noMark : argument ≠ "--".toList) (later : List Text) :
    draft.takeAll (argument :: later) = draft.take argument >>= fun next => next.takeAll later := by
  rw [takeAll, if_neg noMark]
  cases draft.take argument <;> rfl

/-- **All arguments together keep the attribute.** -/
theorem takeAll_keeps (arguments : List Text) : Leaves (Keeps draft) (draft.takeAll arguments) := by
  induction arguments generalizing draft with
  | nil => exact keeps_of_eq rfl
  | cons argument later ih =>
    by_cases mark : argument = "--".toList
    · rw [takeAll, if_pos mark]
      split
      · exact leaves_misuse
      · exact foldlM_takeValue_keeps draft later
    · rw [takeAll_cons draft mark]
      exact leaves_keeps_bind (take_keeps draft argument) ih

/-! ### The option and its value -/

variable {draft}

theorem takeFlag_waiting {option : ValueOption} (waits : draft.waiting? = some option)
    (flag : Flag) : draft.takeFlag flag = .error .misuse := by
  unfold takeFlag
  rw [waits]
  rfl

theorem takePlain_waiting {option : ValueOption} (waits : draft.waiting? = some option)
    (value : Text) : draft.takePlain value = draft.takeOption option value := by
  rw [takePlain, waits]

/-- **An option that waits takes the next argument as its value**, or that argument cannot be
taken. -/
theorem take_waiting {option : ValueOption} (waits : draft.waiting? = some option)
    (argument : Text) :
    draft.take argument = .error .misuse ∨
      draft.take argument = draft.takeOption option argument := by
  have isWaiting : draft.waiting?.isSome = true := by
    rw [waits]
    rfl
  unfold take
  split
  · unfold takeWord
    split
    · rw [takeFlag_waiting waits, ite_self]
      exact Or.inl rfl
    · exact Or.inl (if_pos isWaiting)
    · split
      · exact Or.inr (takePlain_waiting waits _)
      · exact Or.inl rfl
  · split
    · exact Or.inr (takePlain_waiting waits _)
    · rw [takeLetters_cons]
      split
      · exact Or.inl rfl
      · rw [takeFlag_waiting waits]
        exact Or.inl rfl
  · exact Or.inr (takePlain_waiting waits _)

end Steps

end Arguments.Draft

open Arguments Arguments.Draft

/-- The two ways to give an attribute. -/
inductive SpellsAttribute (content : Text) : List Text → Prop
  | attached : SpellsAttribute content ["--attribute=".toList ++ content]
  | separate : SpellsAttribute content ["--attribute".toList, content]

/-- The arguments give an attribute, before any `--`. -/
def GivesAttribute (content : Text) (vector : List Text) : Prop :=
  ∃ before option rest, "--".toList ∉ before ∧ SpellsAttribute content option ∧
    vector = before ++ (option ++ rest)

theorem take_attached (draft : Draft) (content : Text) :
    draft.take ("--attribute=".toList ++ content) =
      if draft.waiting?.isSome then .error .misuse
      else draft.takeOption .exportAttribute content :=
  rfl

theorem take_attribute (draft : Draft) :
    draft.take "--attribute".toList =
      if draft.waiting?.isSome then .error .misuse
      else .ok { draft with waiting? := some .exportAttribute } :=
  rfl

theorem takeOption_attribute (draft : Draft) (content : Text) :
    Leaves (fun next => next.exportAttribute? = some content)
      (draft.takeOption .exportAttribute content) := by
  rw [takeOption]
  split
  · exact leaves_misuse
  · exact rfl

/-- The option gives the attribute to every draft. -/
theorem takeAll_attribute {content : Text} {option : List Text}
    (spelled : SpellsAttribute content option) (draft : Draft) (rest : List Text) :
    Leaves (fun next => next.exportAttribute? = some content) (draft.takeAll (option ++ rest)) := by
  have stays : ∀ middle : Draft, middle.exportAttribute? = some content →
      Leaves (fun next => next.exportAttribute? = some content) (middle.takeAll rest) :=
    fun middle given => (takeAll_keeps middle rest).imp fun _ kept => kept content given
  cases spelled with
  | attached =>
    rw [List.singleton_append, takeAll_cons draft (by exact nofun), take_attached]
    split
    · exact leaves_misuse
    · exact (takeOption_attribute draft content).bind stays
  | separate =>
    rw [List.cons_append, takeAll_cons draft (by decide), take_attribute]
    split
    · exact leaves_misuse
    · show Leaves _ (takeAll { draft with waiting? := some .exportAttribute } (content :: rest))
      by_cases mark : content = "--".toList
      · rw [takeAll, if_pos mark]
        exact leaves_misuse
      · have waits : waiting? { draft with waiting? := some .exportAttribute } =
          some .exportAttribute := rfl
        rw [takeAll_cons _ mark]
        rcases take_waiting waits content with refused | taken
        · rw [refused]
          exact leaves_misuse
        · rw [taken]
          exact (takeOption_attribute _ content).bind stays

/-- Whatever stands before the option, it is seen for what it is. -/
theorem takeAll_gives {content : Text} {vector : List Text} (given : GivesAttribute content vector)
    (draft : Draft) :
    Leaves (fun next => next.exportAttribute? = some content) (draft.takeAll vector) := by
  obtain ⟨before, option, rest, noMark, spelled, rfl⟩ := given
  induction before generalizing draft with
  | nil => exact takeAll_attribute spelled draft rest
  | cons argument later ih =>
    obtain ⟨other, noMark⟩ := List.ne_and_not_mem_of_not_mem_cons noMark
    rw [List.cons_append, takeAll_cons draft (Ne.symm other)]
    exact (take_keeps draft argument).bind fun middle _ => ih middle noMark

/-- **The attribute that is given is the one of the run.** -/
theorem exportAttribute?_of_run {vector : List Text} {arguments : Arguments} {content : Text}
    (given : GivesAttribute content vector)
    (runs : Invocation.ofArguments vector = .run arguments) :
    arguments.exportAttribute? = some content := by
  have leaves := takeAll_gives given Draft.empty
  unfold Invocation.ofArguments at runs
  split at runs
  · rename_i invocation ended
    rw [ended] at leaves
    exact absurd runs (leaves arguments)
  · rename_i draft taken
    rw [taken] at leaves
    unfold finish at runs
    split at runs
    · cases runs
      exact leaves
    · cases runs

/-! ### Every attribute can be given -/

section Dashes

variable {argument : Text} (noDash : argument.head? ≠ some '-')

include noDash

/-- What does not begin with a dash is no option. -/
theorem take_of_no_dash (draft : Draft) : draft.take argument = draft.takePlain argument := by
  rw [take]
  · rintro text rfl
    exact noDash rfl
  · rintro letter letters rfl
    exact noDash rfl

theorem takeAll_cons_of_no_dash (draft : Draft) (later : List Text) :
    draft.takeAll (argument :: later) =
      draft.takePlain argument >>= fun next => next.takeAll later := by
  have noMark : argument ≠ "--".toList := by
    rintro rfl
    exact noDash rfl
  rw [takeAll_cons draft noMark, take_of_no_dash noDash]

/-- Where no option waits and values are wanted, it is one of the values. -/
theorem takeAll_value {draft : Draft} (nonempty : argument ≠ []) (idle : draft.waiting? = none)
    (room : draft.values.length < 3) (later : List Text) :
    draft.takeAll (argument :: later) =
      takeAll { draft with values := draft.values ++ [argument] } later := by
  have taken : draft.takePlain argument =
      .ok { draft with values := draft.values ++ [argument] } := by
    unfold takePlain takeValue
    rw [idle]
    simp only
    rw [if_neg (Nat.not_le_of_lt room), List.isEmpty_eq_false_iff.mpr nonempty, Bool.and_false,
      if_neg Bool.false_ne_true]
  rw [takeAll_cons_of_no_dash noDash, taken]
  rfl

end Dashes

/-- The arguments of a run that gives an attribute and the three values, and nothing else. -/
def Arguments.withAttribute (content source output version : Text) : Arguments :=
  { source, output, schemaVersion := version, verbose := false, exportAttribute? := some content,
    settingsPath? := none }

/-- A value that can stand anywhere among the arguments. -/
def IsPlain (argument : Text) : Prop :=
  argument ≠ [] ∧ argument.head? ≠ some '-'

section Given

variable {source output version : Text} (plainSource : IsPlain source)
  (plainOutput : IsPlain output) (plainVersion : IsPlain version)

include plainSource plainOutput plainVersion

/-- The three values are taken in their order. -/
theorem takeAll_values {draft : Draft} (unused : draft.values = [])
    (idle : draft.waiting? = none) :
    draft.takeAll [source, output, version] =
      .ok { draft with values := [source, output, version] } := by
  rw [takeAll_value plainSource.2 plainSource.1 idle, takeAll_value plainOutput.2 plainOutput.1,
    takeAll_value plainVersion.2 plainVersion.1, unused]
  · rfl
  all_goals first | exact idle | simp [unused]

/-- Arguments that begin with the option and end in the three values. -/
theorem ofArguments_of_takeAll {content : Text} {option : List Text}
    (taken : ∀ later, Draft.empty.takeAll (option ++ later) =
      takeAll { Draft.empty with exportAttribute? := some content } later) :
    Invocation.ofArguments (option ++ [source, output, version]) =
      .run (.withAttribute content source output version) := by
  unfold Invocation.ofArguments
  rw [taken, takeAll_values plainSource plainOutput plainVersion rfl rfl]
  rfl

/-- **Every attribute can be given**, behind an equals sign. -/
theorem ofArguments_attached (content : Text) :
    Invocation.ofArguments (["--attribute=".toList ++ content] ++ [source, output, version]) =
      .run (.withAttribute content source output version) :=
  ofArguments_of_takeAll plainSource plainOutput plainVersion fun later => by
    rw [List.singleton_append, takeAll_cons _ (by exact nofun)]
    rfl

/-- An attribute that does not begin with a dash can also be given as an argument of its own. -/
theorem ofArguments_separate {content : Text} (noDash : content.head? ≠ some '-') :
    Invocation.ofArguments (["--attribute".toList, content] ++ [source, output, version]) =
      .run (.withAttribute content source output version) :=
  ofArguments_of_takeAll plainSource plainOutput plainVersion fun later => by
    rw [List.cons_append, takeAll_cons _ (by decide)]
    exact takeAll_cons_of_no_dash noDash _ later

end Given

end ExportManifest
