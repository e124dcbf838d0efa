/-
**Runs and lines.**

A reader takes the longest run of a class of characters and goes on behind it. Where a run ends is
settled by the one character behind it (`Stops`).

A text either has no newline, and is then its own only line, or is a first line, a newline and a
shorter text. Every fact about the lines of a text is an induction on that.

* `takeWhile_of_stops`, `dropWhile_of_stops`: a run that stops is taken whole, and no more.
* `breakInduction`: the induction of lines, for any mark that ends a line.
* `lines_unbroken`, `lines_terminated`: the two cases of `Text.lines`. A terminated line loses one
  carriage return at its end; a last line without newline keeps it.
* `lines_append_of_terminated`: **the lines of two texts are those of their concatenation**, where
  the first text ends in a newline.
-/

import ExportManifest.Text.Lines
import Mathlib.Data.List.Basic
import Mathlib.Data.List.TakeWhile

namespace ExportManifest

/-! ### Runs -/

section Runs

variable {α : Type} {inClass : α → Bool} {run rest : List α}

/-- No run of the class goes on at the front of the list. -/
def Stops (inClass : α → Bool) (list : List α) : Prop :=
  ∀ item ∈ list.head?, inClass item = false

theorem stops_nil : Stops inClass [] := by
  rintro item ⟨⟩

theorem stops_cons {item : α} (outside : inClass item = false) : Stops inClass (item :: rest) := by
  rintro _ ⟨⟩
  exact outside

theorem stops_append_iff (nonempty : run ≠ []) :
    Stops inClass (run ++ rest) ↔ Stops inClass run := by
  unfold Stops
  rw [List.head?_append_of_ne_nil run nonempty]

theorem stops_dropWhile (inClass : α → Bool) (list : List α) :
    Stops inClass (list.dropWhile inClass) := by
  intro item first
  have outside := List.head?_dropWhile_not inClass list
  rw [Option.mem_def.mp first] at outside
  exact outside

theorem head?_of_head?_takeWhile {item : α} {list : List α}
    (first : item ∈ (list.takeWhile inClass).head?) : item ∈ list.head? := by
  cases list with
  | nil => exact first
  | cons other later =>
    rw [List.takeWhile_cons] at first
    split at first
    · exact first
    · cases first

theorem takeWhile_of_stops (inside : ∀ item ∈ run, inClass item = true)
    (stops : Stops inClass rest) : (run ++ rest).takeWhile inClass = run := by
  rw [List.takeWhile_append_of_pos inside]
  cases rest with
  | nil => exact List.append_nil run
  | cons item later =>
    rw [List.takeWhile_cons_of_neg (by simpa using stops item rfl), List.append_nil]

theorem dropWhile_of_stops (inside : ∀ item ∈ run, inClass item = true)
    (stops : Stops inClass rest) : (run ++ rest).dropWhile inClass = rest := by
  rw [List.dropWhile_append_of_pos inside]
  cases rest with
  | nil => rfl
  | cons item later => exact List.dropWhile_cons_of_neg (by simpa using stops item rfl)

end Runs

/-! ### Lists with marks -/

/-- **The induction of lines**: a list is free of the mark, or a list free of the mark, the mark,
and a shorter list. -/
theorem breakInduction {α : Type} [DecidableEq α] (mark : α) {motive : List α → Prop}
    (last : ∀ line, mark ∉ line → motive line)
    (next : ∀ line rest, mark ∉ line → motive rest → motive (line ++ mark :: rest))
    (list : List α) : motive list := by
  by_cases broken : mark ∈ list
  · obtain ⟨line, rest, rfl, free⟩ := List.eq_append_cons_of_mem broken
    exact next line rest free (breakInduction mark last next rest)
  · exact last list broken
termination_by list.length
decreasing_by
  subst_vars
  simp only [List.length_append, List.length_cons]
  omega

/-- A list without one mark at its end, if one stands there. -/
def withoutFinal {α : Type} [DecidableEq α] (mark : α) (line : List α) : List α :=
  if line.getLast? = some mark then line.dropLast else line

section Final

variable {α : Type} [DecidableEq α] {mark : α}

theorem withoutFinal_of_ne {line : List α} (other : line.getLast? ≠ some mark) :
    withoutFinal mark line = line :=
  if_neg other

theorem withoutFinal_singleton : withoutFinal mark [mark] = [] :=
  if_pos rfl

theorem withoutFinal_cons {item : α} {line : List α} (kept : line ≠ [] ∨ item ≠ mark) :
    withoutFinal mark (item :: line) = item :: withoutFinal mark line := by
  unfold withoutFinal
  cases line with
  | nil =>
    have different : item ≠ mark := kept.resolve_left (fun none => none rfl)
    simp [different]
  | cons second later =>
    rw [List.getLast?_cons_cons, List.dropLast_cons_cons]
    split <;> rfl

theorem mem_of_mem_withoutFinal {item : α} {line : List α}
    (member : item ∈ withoutFinal mark line) : item ∈ line := by
  unfold withoutFinal at member
  split at member
  · exact List.dropLast_subset line member
  · exact member

end Final

namespace Text

/-! ### The two cases of a text -/

/-- A character that ends no line stands at the front of the first line. -/
theorem lines_cons {c : Char} {rest : Text} (ordinary : c ≠ '\n')
    (alone : ¬ (c = '\r' ∧ rest.head? = some '\n')) :
    lines (c :: rest) =
      match lines rest with
      | [] => [[c]]
      | line :: later => (c :: line) :: later := by
  have behind : ∀ later, c = '\r' → rest = '\n' :: later → False := by
    rintro later rfl rfl
    exact alone ⟨rfl, rfl⟩
  exact lines.eq_4 c rest ordinary behind

/-- A carriage return ends a line with the newline behind it only as the last character before
it. -/
theorem alone_of_free {c : Char} {rest : Text} (free : '\n' ∉ rest)
    (inside : ¬ (rest = [] ∧ c = '\r')) (later : Text) :
    ¬ (c = '\r' ∧ (rest ++ '\n' :: later).head? = some '\n') := by
  rintro ⟨rfl, newline⟩
  cases rest with
  | nil => exact inside ⟨rfl, rfl⟩
  | cons second others =>
    obtain rfl : second = '\n' := Option.some.inj newline
    exact free List.mem_cons_self

theorem lines_terminated {line : Text} (free : '\n' ∉ line) (later : Text) :
    lines (line ++ '\n' :: later) = withoutFinal '\r' line :: lines later := by
  induction line with
  | nil => rfl
  | cons c rest ih =>
    obtain ⟨ordinary, freeRest⟩ := List.ne_and_not_mem_of_not_mem_cons free
    by_cases returns : rest = [] ∧ c = '\r'
    · obtain ⟨rfl, rfl⟩ := returns
      rw [withoutFinal_singleton]
      rfl
    · rw [List.cons_append, lines_cons (Ne.symm ordinary) (alone_of_free freeRest returns later),
        ih freeRest, withoutFinal_cons (Classical.not_and_iff_not_or_not.mp returns)]

theorem lines_unbroken {line : Text} (free : '\n' ∉ line) :
    lines line = if line = [] then [] else [line] := by
  induction line with
  | nil => rfl
  | cons c rest ih =>
    obtain ⟨ordinary, freeRest⟩ := List.ne_and_not_mem_of_not_mem_cons free
    have alone : ¬ (c = '\r' ∧ rest.head? = some '\n') := by
      rintro ⟨_, newline⟩
      exact freeRest (List.mem_of_mem_head? newline)
    rw [lines_cons (Ne.symm ordinary) alone, ih freeRest]
    cases rest <;> rfl

/-! ### Whole texts -/

theorem not_mem_of_mem_lines {text line : Text} (member : line ∈ lines text) : '\n' ∉ line := by
  induction text using breakInduction '\n' with
  | last unbroken free =>
    rw [lines_unbroken free] at member
    split at member
    · cases member
    · rwa [List.mem_singleton.mp member]
  | next first rest free ih =>
    rw [lines_terminated free] at member
    rcases List.mem_cons.mp member with rfl | later
    · exact fun newline => free (mem_of_mem_withoutFinal newline)
    · exact ih later

theorem lines_append_newline (front later : Text) :
    lines (front ++ '\n' :: later) = lines (front ++ ['\n']) ++ lines later := by
  induction front using breakInduction '\n' with
  | last line free =>
    rw [lines_terminated free, lines_terminated free]
    rfl
  | next line rest free ih =>
    rw [List.append_assoc, List.append_assoc, List.cons_append, List.cons_append,
      lines_terminated free, lines_terminated free, ih]
    rfl

/-- **Lines of a concatenation**: behind a newline, a text has its lines to itself. -/
theorem lines_append_of_terminated {earlier : Text} (terminated : earlier.getLast? = some '\n')
    (added : Text) : lines (earlier ++ added) = lines earlier ++ lines added := by
  obtain ⟨front, rfl⟩ := List.getLast?_eq_some_iff.mp terminated
  rw [List.append_assoc, List.singleton_append, lines_append_newline]

/-- Lines that have no newline and no carriage return at their end are the lines of the text in
which each of them is ended by a newline. -/
theorem lines_flatMap_newline {list : List Text}
    (whole : ∀ line ∈ list, '\n' ∉ line ∧ line.getLast? ≠ some '\r') :
    lines (list.flatMap fun line => line ++ ['\n']) = list := by
  induction list with
  | nil => rfl
  | cons line later ih =>
    obtain ⟨free, kept⟩ := whole line List.mem_cons_self
    have others := ih fun other member => whole other (List.mem_cons_of_mem _ member)
    rw [List.flatMap_cons, List.append_assoc, List.singleton_append, lines_terminated free,
      withoutFinal_of_ne kept, others]

end Text

end ExportManifest
