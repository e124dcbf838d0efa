/-
**Blank characters, and texts without them at their ends.**

`Text.whiteSpace` names the characters of the Unicode property White_Space one by one; the class
`Text.isBlank` is given by ranges and has the same characters. `Text.Stripped` says what a text is
without blanks at its two ends, and nothing about how they are taken away.

* `isBlank_iff`: **the class of blanks is that list.**
* `trim_between`: blanks around a text that neither begins nor ends with one are taken away, and
  nothing else.
* `stripped_iff`: every text has one stripped form, and `Text.trim` gives it.
-/

import ExportManifest.Proofs.Text.Lines
import ExportManifest.Text.Blank

namespace ExportManifest.Text

/-! ### The classes of blanks, one character after another -/

theorem isGap_iff {c : Char} : isGap c = true ↔ c ∈ [' ', '\t'] := by
  simp [isGap]

theorem isAsciiBlank_iff {c : Char} :
    isAsciiBlank c = true ↔ c ∈ [' ', '\t', '\n', '\x0c', '\r'] := by
  simp [isAsciiBlank, or_assoc]

/-- The characters of the Unicode property White_Space. -/
def whiteSpace : List Char :=
  ['\t', '\n', '\x0b', '\x0c', '\r', ' ', '\u0085', '\u00a0', '\u1680', '\u2000', '\u2001',
    '\u2002', '\u2003', '\u2004', '\u2005', '\u2006', '\u2007', '\u2008', '\u2009', '\u200a',
    '\u2028', '\u2029', '\u202f', '\u205f', '\u3000']

/-- A character is on a list exactly if its code point is on the list of theirs. -/
theorem mem_iff_toNat_mem {c : Char} {list : List Char} :
    c ∈ list ↔ c.toNat ∈ list.map Char.toNat :=
  (List.mem_map_of_injective fun _ _ => Char.toNat_inj.mp).symm

/-- **A character is blank exactly if it is on the list.** -/
theorem isBlank_iff {c : Char} : isBlank c = true ↔ c ∈ whiteSpace := by
  have codes : whiteSpace.map Char.toNat =
      [0x09, 0x0a, 0x0b, 0x0c, 0x0d, 0x20, 0x85, 0xa0, 0x1680, 0x2000, 0x2001, 0x2002, 0x2003,
        0x2004, 0x2005, 0x2006, 0x2007, 0x2008, 0x2009, 0x200a, 0x2028, 0x2029, 0x202f, 0x205f,
        0x3000] := rfl
  rw [mem_iff_toNat_mem, codes]
  simp only [isBlank, isWithin, blankRanges, List.any_cons, List.any_nil, Bool.or_false,
    Bool.or_eq_true, Bool.and_eq_true, decide_eq_true_eq, List.mem_cons, List.not_mem_nil, or_false]
  omega

theorem isBlank_eq_false_iff {c : Char} : isBlank c = false ↔ c ∉ whiteSpace := by
  rw [← isBlank_iff, Bool.not_eq_true]

/-! ### Stripping -/

/-- The second text is what is left of the first without the blanks at its two ends. -/
structure Stripped (text core : Text) : Prop where
  whole : ∃ before after, text = before ++ core ++ after ∧
    (∀ c ∈ before, c ∈ whiteSpace) ∧ ∀ c ∈ after, c ∈ whiteSpace
  first : ∀ c ∈ core.head?, c ∉ whiteSpace
  last : ∀ c ∈ core.getLast?, c ∉ whiteSpace

/-- **Blanks around a text are taken away, and nothing else.** -/
theorem trim_between {before core after : Text} (leading : ∀ c ∈ before, isBlank c = true)
    (trailing : ∀ c ∈ after, isBlank c = true) (first : Stops isBlank core)
    (last : Stops isBlank core.reverse) : trim (before ++ core ++ after) = core := by
  have back : ∀ c ∈ after.reverse, isBlank c = true := fun c member =>
    trailing c (List.mem_reverse.mp member)
  unfold trim
  rw [List.append_assoc]
  by_cases empty : core = []
  · -- The blanks are then one run, and the front takes all of it.
    subst empty
    have nothing : (before ++ ([] ++ after)).dropWhile isBlank = [] :=
      List.dropWhile_eq_nil_iff.mpr (List.forall_mem_append.mpr ⟨leading, trailing⟩)
    rw [nothing]
    rfl
  · rw [dropWhile_of_stops leading ((stops_append_iff empty).mpr first), List.reverse_append,
      dropWhile_of_stops back last, List.reverse_reverse]

theorem stripped_trim (text : Text) : Stripped text text.trim := by
  -- What is behind the leading blanks is the stripped text with the trailing blanks.
  have rest : text.dropWhile isBlank =
      text.trim ++ ((text.dropWhile isBlank).reverse.takeWhile isBlank).reverse := by
    rw [trim, ← List.reverse_append, List.takeWhile_append_dropWhile, List.reverse_reverse]
  refine ⟨⟨text.takeWhile isBlank, ((text.dropWhile isBlank).reverse.takeWhile isBlank).reverse,
    ?_, ?_, ?_⟩, ?_, ?_⟩
  · rw [List.append_assoc, ← rest, List.takeWhile_append_dropWhile]
  · exact fun c member => isBlank_iff.mp (List.mem_takeWhile_imp member)
  · exact fun c member => isBlank_iff.mp (List.mem_takeWhile_imp (List.mem_reverse.mp member))
  · intro c first
    have starts : c ∈ (text.dropWhile isBlank).head? := by
      rw [rest, List.head?_append, Option.mem_def.mp first]
      rfl
    exact isBlank_eq_false_iff.mp (stops_dropWhile isBlank text c starts)
  · intro c last
    rw [trim, List.getLast?_reverse] at last
    exact isBlank_eq_false_iff.mp (stops_dropWhile isBlank _ c last)

/-- **Every text has one stripped form.** -/
theorem stripped_iff {text core : Text} : Stripped text core ↔ core = text.trim := by
  constructor
  · rintro ⟨⟨before, after, rfl, leading, trailing⟩, first, last⟩
    refine (trim_between (fun c member => isBlank_iff.mpr (leading c member))
      (fun c member => isBlank_iff.mpr (trailing c member))
      (fun c start => isBlank_eq_false_iff.mpr (first c start)) fun c final => ?_).symm
    rw [List.head?_reverse] at final
    exact isBlank_eq_false_iff.mpr (last c final)
  · rintro rfl
    exact stripped_trim text

end ExportManifest.Text
