/-
**A text has one reading as a signature, or none.**

`Signature.Reading` says of each part of a text which characters it is made of, and nothing about
how it is found. The reader takes the longest run each time and never goes back; it loses nothing
by that, because the character behind a part never belongs to the class of that part. So the parts
of a text are found one after another, from the left, and no other cut is a reading.

* `run_unique`: a run of a class with something else behind it can be cut off in one way only.
* `reading_iff`: a reading is a well-formed signature in a well-formed frame.
* `Reading.unique`: **two readings of a text agree in every part.**
* `parse?_accepts_readings`: the signature of a text is that of its reading, and a text is refused
  if and only if it has none.
-/

import ExportManifest.Proofs.Signature.Grammar
import ExportManifest.Proofs.Text.Blank

namespace ExportManifest

/-- A run of a class, with something behind it that is not of the class, is cut off in one way. -/
theorem run_unique {α : Type} {inClass : α → Bool} {run rest other later : List α}
    (inside : ∀ item ∈ run, inClass item = true) (stops : Stops inClass rest)
    (otherInside : ∀ item ∈ other, inClass item = true) (otherStops : Stops inClass later)
    (same : run ++ rest = other ++ later) : run = other ∧ rest = later := by
  have runs := congrArg (List.takeWhile inClass) same
  have rests := congrArg (List.dropWhile inClass) same
  rw [takeWhile_of_stops inside stops, takeWhile_of_stops otherInside otherStops] at runs
  rw [dropWhile_of_stops inside stops, dropWhile_of_stops otherInside otherStops] at rests
  exact ⟨runs, rests⟩

namespace Signature

attribute [ext] Signature Frame

/-- A text is read as a signature in a frame: it is the parts of both in their order, and each part
is made of the characters that may stand there. -/
structure Reading (rest : Text) (signature : Signature) (frame : Frame) : Prop where
  whole : rest = frame.lead ++ signature.returnType ++ frame.gap ++ signature.name ++
    frame.space ++ ['('] ++ signature.args ++ [')'] ++ frame.tail
  lead : ∀ c ∈ frame.lead, c ∈ [' ', '\t']
  returnType_ne_nil : signature.returnType ≠ []
  returnType : ∀ c ∈ signature.returnType, c ∉ [' ', '\t', '(']
  gap_ne_nil : frame.gap ≠ []
  gap : ∀ c ∈ frame.gap, c ∈ [' ', '\t', '\n', '\x0c', '\r']
  gapStart : ∀ c ∈ frame.gap.head?, c ∈ [' ', '\t']
  name_ne_nil : signature.name ≠ []
  name : ∀ c ∈ signature.name, c ∉ [' ', '(']
  nameStart : ∀ c ∈ signature.name.head?, c ∉ [' ', '\t', '\n', '\x0c', '\r']
  space : ∀ c ∈ frame.space, c ∈ [' ', '\t', '\n', '\x0c', '\r']
  spaceStart : ∀ c ∈ frame.space.head?, c = ' '
  args : ')' ∉ signature.args

/-! ### Readings by their classes -/

theorem isTypeChar_iff {c : Char} : isTypeChar c = true ↔ c ∉ [' ', '\t', '('] := by
  simp [isTypeChar, Text.isGap, and_assoc]

theorem isNameChar_iff {c : Char} : isNameChar c = true ↔ c ∉ [' ', '('] := by
  simp [isNameChar]

variable {rest : Text} {signature other : Signature} {frame otherFrame : Frame}

theorem gapStart_iff {gap : Text} :
    gap.head?.any Text.isGap = true ↔ gap ≠ [] ∧ ∀ c ∈ gap.head?, c ∈ [' ', '\t'] := by
  cases gap with
  | nil => simp
  | cons c later => simp [Text.isGap]

/-- **A reading is a well-formed signature in a well-formed frame.** -/
theorem reading_iff :
    Reading rest signature frame ↔
      signature.WellFormed ∧ frame.WellFormed ∧ rest = frame.around signature := by
  have shape : frame.lead ++ signature.returnType ++ frame.gap ++ signature.name ++
      frame.space ++ ['('] ++ signature.args ++ [')'] ++ frame.tail = frame.around signature := by
    simp [Frame.around]
  constructor
  · intro reading
    refine ⟨⟨reading.returnType_ne_nil, ?_, reading.name_ne_nil, ?_, ?_, reading.args⟩,
      ⟨?_, ?_, ?_, ?_, reading.spaceStart⟩, reading.whole.trans shape⟩
    · exact fun c member => isTypeChar_iff.mpr (reading.returnType c member)
    · exact fun c member => isNameChar_iff.mpr (reading.name c member)
    · intro c first
      exact Bool.eq_false_iff.mpr fun blank => reading.nameStart c first (Text.isAsciiBlank_iff.mp blank)
    · exact fun c member => Text.isGap_iff.mpr (reading.lead c member)
    · exact fun c member => Text.isAsciiBlank_iff.mpr (reading.gap c member)
    · exact gapStart_iff.mpr ⟨reading.gap_ne_nil, reading.gapStart⟩
    · exact fun c member => Text.isAsciiBlank_iff.mpr (reading.space c member)
  · rintro ⟨fields, framed, whole⟩
    obtain ⟨gapNonempty, gapStart⟩ := gapStart_iff.mp framed.gapStart
    exact
      { whole := whole.trans shape.symm
        lead := fun c member => Text.isGap_iff.mp (framed.lead c member)
        returnType_ne_nil := fields.returnType_ne_nil
        returnType := fun c member => isTypeChar_iff.mp (fields.returnType c member)
        gap_ne_nil := gapNonempty
        gap := fun c member => Text.isAsciiBlank_iff.mp (framed.gap c member)
        gapStart := gapStart
        name_ne_nil := fields.name_ne_nil
        name := fun c member => isNameChar_iff.mp (fields.name c member)
        nameStart := fun c first blank =>
          Bool.eq_false_iff.mp (fields.nameStart c first) (Text.isAsciiBlank_iff.mpr blank)
        space := fun c member => Text.isAsciiBlank_iff.mp (framed.space c member)
        spaceStart := framed.spaceStart
        args := fields.args }

/-! ### One reading -/

/-- **Two readings of a text agree in every part.** -/
theorem Reading.unique (reading : Reading rest signature frame)
    (again : Reading rest other otherFrame) : signature = other ∧ frame = otherFrame := by
  obtain ⟨fields, framed, shape⟩ := reading_iff.mp reading
  obtain ⟨otherFields, otherFramed, otherShape⟩ := reading_iff.mp again
  have same := shape.symm.trans otherShape
  unfold Frame.around at same
  -- The parts are cut off from the left, each up to the first character outside its class.
  obtain ⟨lead, same⟩ := run_unique framed.lead (fields.stops_returnType _) otherFramed.lead
    (otherFields.stops_returnType _) same
  obtain ⟨returnType, same⟩ := run_unique fields.returnType (framed.stops_gap _)
    otherFields.returnType (otherFramed.stops_gap _) same
  obtain ⟨gap, same⟩ := run_unique framed.gap (fields.stops_name _) otherFramed.gap
    (otherFields.stops_name _) same
  obtain ⟨name, same⟩ := run_unique fields.name (framed.stops_space _) otherFields.name
    (otherFramed.stops_space _) same
  obtain ⟨space, same⟩ := run_unique framed.space (stops_cons rfl) otherFramed.space
    (stops_cons rfl) same
  obtain ⟨args, same⟩ := run_unique (open_of_not_mem fields.args) (stops_cons rfl)
    (open_of_not_mem otherFields.args) (stops_cons rfl) (List.cons.inj same).2
  exact ⟨Signature.ext name returnType args,
    Frame.ext lead gap space (List.cons.inj same).2⟩

/-- **Reading accepts exactly the texts that have a reading, and each has one only.** A text is read
as a signature if and only if the signature stands in it in some frame; no text can be cut into the
parts of a signature and of a frame in two ways; and a text is refused if and only if it cannot be
cut in this way at all. -/
theorem parse?_accepts_readings (rest : Text) :
    (∀ signature, parse? rest = some signature ↔ ∃ frame, Reading rest signature frame) ∧
    (∀ signature frame other otherFrame, Reading rest signature frame →
      Reading rest other otherFrame → signature = other ∧ frame = otherFrame) ∧
    (parse? rest = none ↔ ¬∃ signature frame, Reading rest signature frame) := by
  have accepts : ∀ signature,
      parse? rest = some signature ↔ ∃ frame, Reading rest signature frame := by
    intro signature
    rw [parse?_eq_some_iff, ← exists_and_left]
    exact exists_congr fun frame => reading_iff.symm
  refine ⟨accepts, fun _ _ _ _ reading again => reading.unique again, ?_⟩
  rw [Option.eq_none_iff_forall_ne_some, not_exists]
  exact forall_congr' fun signature => not_congr (accepts signature)

/-- A name with a tab at its end and arguments that open a second parenthesis. The first
parenthesis that closes ends the arguments, and the text has no other reading. -/
theorem parse?_accepts_readings_nested :
    let rest := "\t int\t\r\n*f\t ((*g)(void));".toList
    let signature : Signature :=
      { name := "*f\t".toList, returnType := "int".toList, args := "(*g".toList }
    let frame : Frame :=
      { lead := "\t ".toList, gap := "\t\r\n".toList, space := " ".toList,
        tail := "(void));".toList }
    Reading rest signature frame ∧ parse? rest = some signature ∧
      ∀ other otherFrame, Reading rest other otherFrame → other = signature := by
  intro rest signature frame
  obtain ⟨accepts, single, _⟩ := parse?_accepts_readings rest
  have reading : Reading rest signature frame := by
    constructor <;> simp [rest, signature, frame]
  exact ⟨reading, (accepts signature).mpr ⟨frame, reading⟩,
    fun other otherFrame again => (single other otherFrame signature frame again reading).1⟩

end Signature

end ExportManifest
