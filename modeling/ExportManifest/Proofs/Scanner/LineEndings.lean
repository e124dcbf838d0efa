/-
**Line endings make no difference.**

A scan sees a text only through its lines. A newline may be written with a carriage return in front
of it, and the last line may lack its newline, without a change in any line; so two such texts have
the same scan, down to the events that it tells and the clock that it leaves.

* `Text.returned`: a text in which chosen newlines have a carriage return in front of them.
* `Text.lines_returned`: **its lines are those of the text**, if no carriage return stood before a
  newline already. One that did would stay in the line, since a line loses only one.
* `Text.lines_concat_newline`: a newline behind a last line that lacks it adds nothing. A last line
  that ends in a carriage return would lose it.
* `scan_independent_of_line_endings`: both, for scans.
-/

import ExportManifest.Proofs.Scanner.Passes

namespace ExportManifest

namespace Text

/-! ### Carriage returns before newlines -/

/-- A character, with a carriage return in front of it if it is a newline at a chosen place. -/
def returnedChar (chosen : Nat → Bool) (c : Char) (place : Nat) : Text :=
  if c = '\n' ∧ chosen place = true then ['\r', '\n'] else [c]

/-- A text whose first character has the given place, with a carriage return in front of each
newline at a chosen place. -/
def returnedFrom (chosen : Nat → Bool) (start : Nat) (text : Text) : Text :=
  (text.zipIdx start).flatMap fun placed => returnedChar chosen placed.1 placed.2

/-- A text with a carriage return in front of each newline at a chosen place. -/
def returned (chosen : Nat → Bool) (text : Text) : Text :=
  returnedFrom chosen 0 text

section

variable {chosen : Nat → Bool} {start : Nat}

theorem returnedFrom_append (front back : Text) :
    returnedFrom chosen start (front ++ back) =
      returnedFrom chosen start front ++ returnedFrom chosen (start + front.length) back := by
  unfold returnedFrom
  rw [List.zipIdx_append, List.flatMap_append]

theorem returnedFrom_cons (c : Char) (rest : Text) :
    returnedFrom chosen start (c :: rest) =
      returnedChar chosen c start ++ returnedFrom chosen (start + 1) rest := by
  unfold returnedFrom
  rw [List.zipIdx_cons, List.flatMap_cons]

theorem returnedFrom_unbroken {line : Text} (free : '\n' ∉ line) :
    returnedFrom chosen start line = line := by
  induction line generalizing start with
  | nil => rfl
  | cons c rest ih =>
    obtain ⟨ordinary, freeRest⟩ := List.ne_and_not_mem_of_not_mem_cons free
    have kept : ¬ (c = '\n' ∧ chosen start = true) := fun newline => ordinary newline.1.symm
    rw [returnedFrom_cons, returnedChar, if_neg kept, ih freeRest]
    rfl

/-- A first line keeps its characters and has at most a carriage return more. -/
theorem returnedFrom_terminated (chosen : Nat → Bool) (start : Nat) {line : Text}
    (free : '\n' ∉ line) (rest : Text) :
    ∃ ending, (ending = [] ∨ ending = ['\r']) ∧
      returnedFrom chosen start (line ++ '\n' :: rest) =
        (line ++ ending) ++ '\n' :: returnedFrom chosen (start + line.length + 1) rest := by
  rw [returnedFrom_append, returnedFrom_unbroken free, returnedFrom_cons, returnedChar]
  by_cases taken : chosen (start + line.length) = true
  · refine ⟨['\r'], Or.inr rfl, ?_⟩
    rw [if_pos ⟨rfl, taken⟩]
    simp
  · refine ⟨[], Or.inl rfl, ?_⟩
    rw [if_neg fun newline => taken newline.2]
    simp

end

/-! ### The lines stay the same -/

/-- A line in a text without a carriage return before a newline does not end in one. -/
theorem getLast?_of_terminated {line rest : Text}
    (bare : ¬ ['\r', '\n'] <:+: line ++ '\n' :: rest) : line.getLast? ≠ some '\r' := by
  intro returns
  obtain ⟨front, rfl⟩ := List.getLast?_eq_some_iff.mp returns
  exact bare ⟨front, rest, by simp⟩

theorem lines_returnedFrom (chosen : Nat → Bool) {text : Text}
    (bare : ¬ ['\r', '\n'] <:+: text) (start : Nat) :
    lines (returnedFrom chosen start text) = lines text := by
  induction text using breakInduction '\n' generalizing start with
  | last line free => rw [returnedFrom_unbroken free]
  | next line rest free ih =>
    have lineEnd := getLast?_of_terminated bare
    have bareRest : ¬ ['\r', '\n'] <:+: rest := fun inside =>
      bare (inside.trans ⟨line ++ ['\n'], [], by simp⟩)
    obtain ⟨ending, either, shape⟩ := returnedFrom_terminated chosen start free rest
    have freeEnd : '\n' ∉ line ++ ending := by
      rcases either with rfl | rfl <;> simpa using free
    have sameLine : withoutFinal '\r' (line ++ ending) = withoutFinal '\r' line := by
      rw [withoutFinal_of_ne lineEnd]
      rcases either with rfl | rfl
      · rw [List.append_nil, withoutFinal_of_ne lineEnd]
      · rw [withoutFinal, List.getLast?_concat, if_pos rfl, List.dropLast_concat]
    rw [shape, lines_terminated freeEnd, lines_terminated free, sameLine, ih bareRest]

/-- **Carriage returns put before newlines leave the lines as they are.** -/
theorem lines_returned (chosen : Nat → Bool) {text : Text} (bare : ¬ ['\r', '\n'] <:+: text) :
    lines (returned chosen text) = lines text :=
  lines_returnedFrom chosen bare 0

/-- **A newline behind the last line adds no line**, if that line lacks it and does not end in a
carriage return. -/
theorem lines_concat_newline {text : Text} {last : Char} (ends : text.getLast? = some last)
    (noNewline : last ≠ '\n') (noReturn : last ≠ '\r') :
    lines (text ++ ['\n']) = lines text := by
  induction text using breakInduction '\n' with
  | last line free =>
    have nonempty : line ≠ [] := by
      rintro rfl
      cases ends
    have kept : line.getLast? ≠ some '\r' := by
      rw [ends]
      exact fun same => noReturn (Option.some.inj same)
    rw [lines_terminated free, withoutFinal_of_ne kept, lines_unbroken free, if_neg nonempty]
    rfl
  | next line rest free ih =>
    have restEnds : rest.getLast? = some last := by
      cases rest with
      | nil =>
        rw [List.getLast?_concat, Option.some.injEq] at ends
        exact absurd ends.symm noNewline
      | cons c later =>
        rw [List.getLast?_append, List.getLast?_cons_cons] at ends
        simpa [List.getLast?_cons] using ends
    rw [List.append_assoc, List.cons_append, lines_terminated free, lines_terminated free,
      ih restEnds]

end Text

/-! ### The scan stays the same -/

/-- A scan sees of a text its lines only. -/
theorem Scanner.scanText_congr (scanner : Scanner) (source : Text) (version : Int64)
    {first second : Text} (same : first.lines = second.lines) :
    scanner.scanText source first version = scanner.scanText source second version := by
  unfold scanText
  rw [same]

/-- **A scan does not depend on how lines are ended.** Let any newlines of a text in which no
carriage return stands before a newline be written with one: the scan is the same, whether it fails
or what it finds, and so are its events and the clock after it. It is also the same with a newline
added behind a text that ends in neither a newline nor a carriage return. -/
theorem scan_independent_of_line_endings (scanner : Scanner) (source text : Text)
    (version : Int64) :
    (∀ chosen : Nat → Bool, ¬ ['\r', '\n'] <:+: text →
      scanner.scanText source (text.returned chosen) version =
        scanner.scanText source text version) ∧
    (∀ last, text.getLast? = some last → last ≠ '\n' → last ≠ '\r' →
      scanner.scanText source (text ++ ['\n']) version = scanner.scanText source text version) := by
  constructor
  · intro chosen bare
    exact scanner.scanText_congr source version (Text.lines_returned chosen bare)
  · intro last ends noNewline noReturn
    refine scanner.scanText_congr source version ?_
    exact Text.lines_concat_newline ends noNewline noReturn

/-- A source with a carriage return inside a line, whose second newline gets one of its own, and
whose last line, which cannot be read, gets a newline: three texts with one outcome. -/
theorem scan_independent_of_line_endings_mixed :
    let scanner : Scanner :=
      { exportAttribute := "x".toList, indent := 3, clock := .fixed "now".toList }
    let text : Text := "#define API x\rA\nAPI int f()\nAPI".toList
    let chosen := fun place => place == 27
    let found : Outcome :=
      { exportMacro := "API".toList
        manifest :=
          { schemaVersion := 1, source := "a.c".toList, timestamp := "now".toList,
            functions := [{ name := "f".toList, returnType := "int".toList, args := [] }] }
        skipped := [3]
        output? := none }
    ¬ ['\r', '\n'] <:+: text ∧ text.getLast? = some 'I' ∧
      text.returned chosen = "#define API x\rA\nAPI int f()\r\nAPI".toList ∧
      (scanner.scanText "a.c".toList (text.returned chosen) 1).result = .ok found ∧
      (scanner.scanText "a.c".toList (text ++ ['\n']) 1).result = .ok found := by
  intro scanner text chosen found
  have bare : ¬ ['\r', '\n'] <:+: text := by
    rw [← Text.occursIn_iff]
    decide
  have ends : text.getLast? = some 'I' := by decide
  have finds : (scanner.scanText "a.c".toList text 1).result = .ok found := by rfl
  obtain ⟨mixed, closed⟩ := scan_independent_of_line_endings scanner "a.c".toList text 1
  refine ⟨bare, ends, by decide, ?_, ?_⟩
  · rw [mixed chosen bare]
    exact finds
  · rw [closed 'I' ends (by decide) (by decide)]
    exact finds

end ExportManifest
