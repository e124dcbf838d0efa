/-
**The grammar of a signature.**

What follows the macro on a line is a frame around three fields: gaps, the return type, blanks, the
name, blanks, and the arguments between parentheses. The conditions on the fields and those on the
frame are apart: any well-formed signature can stand in any well-formed frame, and reading gives it
back.

* `Signature.WellFormed`, `Signature.Frame.WellFormed`: the two sides.
* `arguments?_eq_some_iff`, `nameAndArguments?_eq_some_iff`: the parts of the reader, from the right.
* `WellFormed.stops_returnType`, `Frame.WellFormed.stops_gap` and others: each part ends where the
  next one begins.
* `framed_of_parse?`, `parse?_around`: what is read stands in a frame, and is read from any frame.
* `parse?_eq_some_iff`: **reading accepts exactly well-formed signatures in well-formed frames.**
-/

import ExportManifest.Proofs.Text.Lines
import ExportManifest.Signature

namespace ExportManifest.Signature

/-- What the three fields of a signature are. -/
structure WellFormed (signature : Signature) : Prop where
  returnType_ne_nil : signature.returnType ≠ []
  returnType : ∀ c ∈ signature.returnType, isTypeChar c = true
  name_ne_nil : signature.name ≠ []
  name : ∀ c ∈ signature.name, isNameChar c = true
  nameStart : Stops Text.isAsciiBlank signature.name
  args : ')' ∉ signature.args

/-- The texts around the fields: before the return type, before the name, before the opening
parenthesis and after the closing one. -/
structure Frame where
  lead : Text
  gap : Text
  space : Text
  tail : Text

namespace Frame

/-- The signature in its frame. -/
def around (frame : Frame) (signature : Signature) : Text :=
  frame.lead ++ (signature.returnType ++ (frame.gap ++ (signature.name ++ (frame.space ++
    '(' :: (signature.args ++ ')' :: frame.tail)))))

/-- What the texts around the fields are; anything may follow the closing parenthesis. -/
structure WellFormed (frame : Frame) : Prop where
  lead : ∀ c ∈ frame.lead, Text.isGap c = true
  gap : ∀ c ∈ frame.gap, Text.isAsciiBlank c = true
  gapStart : frame.gap.head?.any Text.isGap = true
  space : ∀ c ∈ frame.space, Text.isAsciiBlank c = true
  spaceStart : ∀ c ∈ frame.space.head?, c = ' '

end Frame

/-! ### Classes of characters -/

theorem isTypeChar_eq_false_iff {c : Char} :
    isTypeChar c = false ↔ Text.isGap c = true ∨ c = '(' := by
  rw [isTypeChar, Bool.not_eq_false', Bool.or_eq_true, beq_iff_eq]

theorem isNameChar_eq_false_iff {c : Char} : isNameChar c = false ↔ c = ' ' ∨ c = '(' := by
  rw [isNameChar, Bool.not_eq_false', Bool.or_eq_true, beq_iff_eq, beq_iff_eq]

theorem isAsciiBlank_of_isGap {c : Char} (gap : Text.isGap c = true) :
    Text.isAsciiBlank c = true := by
  rw [Text.isGap] at gap
  simp only [Text.isAsciiBlank, gap, Bool.true_or]

theorem isTypeChar_not_isGap {c : Char} (inside : isTypeChar c = true) :
    Text.isGap c = false := by
  have outside : ¬ (Text.isGap c = true ∨ c = '(') := fun ends => by
    rw [isTypeChar_eq_false_iff.mpr ends] at inside
    cases inside
  simpa using (not_or.mp outside).1

/-- No character of the arguments closes them. -/
theorem open_of_not_mem {args : Text} (free : ')' ∉ args) : ∀ c ∈ args, (c != ')') = true :=
  fun _ member => bne_iff_ne.mpr fun closes => free (closes ▸ member)

/-! ### The reader, from the right -/

theorem arguments?_eq_some_iff {text args : Text} :
    arguments? text = some args ↔
      ')' ∉ args ∧ ∃ tail, text = '(' :: (args ++ ')' :: tail) := by
  constructor
  · intro reads
    unfold arguments? at reads
    split at reads
    · rename_i body
      split at reads
      · rename_i closes
        obtain ⟨inside, tail, rfl, free⟩ :=
          List.eq_append_cons_of_mem (List.contains_iff_mem.mp closes)
        have whole : (inside ++ ')' :: tail).takeWhile (· != ')') = inside :=
          takeWhile_of_stops (open_of_not_mem free) (stops_cons rfl)
        rw [whole] at reads
        cases reads
        exact ⟨free, tail, rfl⟩
      · cases reads
    · cases reads
  · rintro ⟨free, tail, rfl⟩
    have closes : (args ++ ')' :: tail).contains ')' = true := by simp
    rw [arguments?, if_pos closes]
    exact congrArg some (takeWhile_of_stops (open_of_not_mem free) (stops_cons rfl))

theorem nameAndArguments?_eq_some_iff {text name args : Text} :
    nameAndArguments? text = some (name, args) ↔
      name ≠ [] ∧ (∀ c ∈ name, isNameChar c = true) ∧ ')' ∉ args ∧
        ∃ space tail, (∀ c ∈ space, Text.isAsciiBlank c = true) ∧
          (∀ c ∈ space.head?, c = ' ') ∧
          text = name ++ (space ++ '(' :: (args ++ ')' :: tail)) := by
  constructor
  · intro reads
    unfold nameAndArguments? at reads
    simp only at reads
    split at reads
    · cases reads
    rename_i nonempty
    obtain ⟨found, parenthesised, same⟩ := Option.map_eq_some_iff.mp reads
    cases same
    obtain ⟨free, tail, shape⟩ := arguments?_eq_some_iff.mp parenthesised
    refine ⟨by simpa using nonempty, fun c member => List.mem_takeWhile_imp member, free,
      (text.dropWhile isNameChar).takeWhile Text.isAsciiBlank, tail,
      fun c member => List.mem_takeWhile_imp member, ?_, ?_⟩
    · -- The first of the blanks ended the name and is no parenthesis.
      intro c first
      have blank : Text.isAsciiBlank c = true :=
        List.mem_takeWhile_imp (List.mem_of_mem_head? first)
      have ends : isNameChar c = false :=
        stops_dropWhile isNameChar text c (head?_of_head?_takeWhile first)
      rcases isNameChar_eq_false_iff.mp ends with rfl | rfl
      · rfl
      · cases blank
    · rw [← shape, List.takeWhile_append_dropWhile, List.takeWhile_append_dropWhile]
  · rintro ⟨nonempty, inside, free, space, tail, blanks, start, rfl⟩
    have ends : Stops isNameChar (space ++ '(' :: (args ++ ')' :: tail)) := by
      intro c first
      cases space with
      | nil => exact isNameChar_eq_false_iff.mpr (Or.inr (Option.some.inj first).symm)
      | cons other later =>
        obtain rfl : other = c := Option.some.inj first
        exact isNameChar_eq_false_iff.mpr (Or.inl (start other rfl))
    unfold nameAndArguments?
    simp only
    rw [takeWhile_of_stops inside ends, dropWhile_of_stops inside ends,
      dropWhile_of_stops blanks (stops_cons rfl),
      arguments?_eq_some_iff.mpr ⟨free, tail, rfl⟩, if_neg (by simpa using nonempty)]
    rfl

/-! ### What stands behind each part -/

section Stops

variable {signature : Signature} {frame : Frame}

/-- The blanks between return type and name begin with a gap. -/
theorem Frame.WellFormed.gap_eq_cons (framed : frame.WellFormed) :
    ∃ c others, frame.gap = c :: others ∧ Text.isGap c = true := by
  have begins := framed.gapStart
  cases shape : frame.gap with
  | nil =>
    rw [shape] at begins
    cases begins
  | cons c others =>
    rw [shape] at begins
    exact ⟨c, others, rfl, begins⟩

theorem WellFormed.stops_returnType (fields : signature.WellFormed) (later : Text) :
    Stops Text.isGap (signature.returnType ++ later) := by
  rw [stops_append_iff fields.returnType_ne_nil]
  intro c first
  exact isTypeChar_not_isGap (fields.returnType c (List.mem_of_mem_head? first))

theorem WellFormed.stops_name (fields : signature.WellFormed) (later : Text) :
    Stops Text.isAsciiBlank (signature.name ++ later) :=
  (stops_append_iff fields.name_ne_nil).mpr fields.nameStart

theorem Frame.WellFormed.stops_gap (framed : frame.WellFormed) (later : Text) :
    Stops isTypeChar (frame.gap ++ later) := by
  obtain ⟨c, others, shape, gap⟩ := framed.gap_eq_cons
  rw [shape]
  exact stops_cons (isTypeChar_eq_false_iff.mpr (Or.inl gap))

theorem Frame.WellFormed.stops_space (framed : frame.WellFormed) (later : Text) :
    Stops isNameChar (frame.space ++ '(' :: later) := by
  have start := framed.spaceStart
  cases shape : frame.space with
  | nil => exact stops_cons rfl
  | cons c others =>
    rw [shape] at start
    exact stops_cons (isNameChar_eq_false_iff.mpr (Or.inl (start c rfl)))

end Stops

/-! ### Signatures in their frames -/

/-- A signature that is read stands, well-formed, in a well-formed frame. -/
theorem framed_of_parse? {rest : Text} {signature : Signature}
    (reads : parse? rest = some signature) :
    signature.WellFormed ∧ ∃ frame : Frame, frame.WellFormed ∧ rest = frame.around signature := by
  unfold parse? at reads
  simp only at reads
  split at reads
  · cases reads
  rename_i begins
  obtain ⟨nonempty, separated⟩ : (rest.dropWhile Text.isGap).takeWhile isTypeChar ≠ [] ∧
      ((rest.dropWhile Text.isGap).dropWhile isTypeChar).head?.any Text.isAsciiBlank = true := by
    simpa using begins
  obtain ⟨⟨name, args⟩, named, same⟩ := Option.map_eq_some_iff.mp reads
  cases same
  obtain ⟨nameNonempty, nameInside, free, space, tail, blanks, start, shape⟩ :=
    nameAndArguments?_eq_some_iff.mp named
  have nameStart : Stops Text.isAsciiBlank name := by
    rw [← stops_append_iff nameNonempty, ← shape]
    exact stops_dropWhile Text.isAsciiBlank _
  refine ⟨⟨nonempty, fun c member => List.mem_takeWhile_imp member, nameNonempty, nameInside,
    nameStart, free⟩, ⟨rest.takeWhile Text.isGap,
    ((rest.dropWhile Text.isGap).dropWhile isTypeChar).takeWhile Text.isAsciiBlank, space,
    tail⟩, ⟨fun c member => List.mem_takeWhile_imp member,
    fun c member => List.mem_takeWhile_imp member, ?_, blanks, start⟩, ?_⟩
  · -- The first of the blanks ended the return type and is no parenthesis.
    generalize ended : (rest.dropWhile Text.isGap).dropWhile isTypeChar = blankRun at separated ⊢
    have stops : Stops isTypeChar blankRun := ended ▸ stops_dropWhile isTypeChar _
    cases blankRun with
    | nil => cases separated
    | cons c later =>
      have blank : Text.isAsciiBlank c = true := separated
      rw [List.takeWhile_cons_of_pos blank]
      rcases isTypeChar_eq_false_iff.mp (stops c rfl) with gap | rfl
      · exact gap
      · cases blank
  · unfold Frame.around
    simp only
    rw [← shape, List.takeWhile_append_dropWhile, List.takeWhile_append_dropWhile,
      List.takeWhile_append_dropWhile]

theorem parse?_around {signature : Signature} (fields : signature.WellFormed) {frame : Frame}
    (framed : frame.WellFormed) : parse? (frame.around signature) = some signature := by
  have separated : ∀ later, (frame.gap ++ later).head?.any Text.isAsciiBlank = true := by
    intro later
    obtain ⟨c, others, shape, gap⟩ := framed.gap_eq_cons
    rw [shape]
    exact isAsciiBlank_of_isGap gap
  unfold parse? Frame.around
  simp only
  rw [dropWhile_of_stops framed.lead (fields.stops_returnType _),
    takeWhile_of_stops fields.returnType (framed.stops_gap _),
    dropWhile_of_stops fields.returnType (framed.stops_gap _),
    dropWhile_of_stops framed.gap (fields.stops_name _), separated,
    nameAndArguments?_eq_some_iff.mpr ⟨fields.name_ne_nil, fields.name, fields.args,
      frame.space, frame.tail, framed.space, framed.spaceStart, rfl⟩,
    if_neg (by simpa using fields.returnType_ne_nil)]
  rfl

/-- **Reading accepts exactly well-formed signatures in well-formed frames.** -/
theorem parse?_eq_some_iff {rest : Text} {signature : Signature} :
    parse? rest = some signature ↔
      signature.WellFormed ∧ ∃ frame : Frame, frame.WellFormed ∧ rest = frame.around signature := by
  constructor
  · exact framed_of_parse?
  · rintro ⟨fields, frame, framed, rfl⟩
    exact parse?_around fields framed

end ExportManifest.Signature
