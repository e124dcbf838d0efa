/-
**Only spellings are read.**

Where a reader gives a value, the text that it took from the front spells that value, and what it
gives as the rest stands behind. Together with `read_spells` this makes the grammar exact: a
document is read as a value if and only if it spells the value between blanks.

* `readUnits_sound`, `readNumeral_sound`: what a reader of a string or a number took.
* `read_sound`: **what is read was spelled**, by induction on the steps of the readers.
* `parse?_eq_some_iff`: the documents of a value.
* `parse?_structured`: an array or an object with more than blanks behind it is no document.
-/

import ExportManifest.Proofs.Json.Spelling
import Mathlib.Data.List.Basic
import Mathlib.Data.List.TakeWhile

namespace ExportManifest.Json

/-- What is skipped in front of a text is blank. -/
theorem skipBlanks_split (text : Text) : ∃ gap, Blanks gap ∧ text = gap ++ skipBlanks text :=
  ⟨text.takeWhile isBlank, fun _ member => List.mem_takeWhile_imp member,
    List.takeWhile_append_dropWhile.symm⟩

/-! ### Strings -/

theorem consUnit_eq_some {unit : StringUnit} {reading : Option (List StringUnit × Text)}
    {units : List StringUnit} {rest : Text} (reads : consUnit unit reading = some (units, rest)) :
    ∃ later, reading = some (later, rest) ∧ units = unit :: later := by
  obtain ⟨⟨later, behind⟩, read, same⟩ := Option.map_eq_some_iff.mp reads
  cases same
  exact ⟨later, read, rfl⟩

/-- A unit in front of what a string spells. -/
theorem spellsUnits_front {unit : StringUnit} {units : List StringUnit} {front text rest : Text}
    (first : SpellsUnit unit front)
    (later : ∃ body, SpellsUnits units body ∧ text = body ++ '"' :: rest) :
    ∃ body, SpellsUnits (unit :: units) body ∧ front ++ text = body ++ '"' :: rest := by
  obtain ⟨body, spelled, rfl⟩ := later
  exact ⟨front ++ body, .cons first spelled, by rw [List.append_assoc]⟩

/-- **A string that is read is spelled**, up to its closing quote. -/
theorem readUnits_sound {text : Text} {units : List StringUnit} {rest : Text}
    (reads : readUnits text = some (units, rest)) :
    ∃ body, SpellsUnits units body ∧ text = body ++ '"' :: rest := by
  induction text using readUnits.induct generalizing units rest with
  | case1 => cases reads
  | case2 behind =>
    cases reads
    exact ⟨[], .nil, rfl⟩
  | case3 a b c d behind unit quad ih =>
    rw [readUnits, quad] at reads
    obtain ⟨later, read, rfl⟩ := consUnit_eq_some reads
    exact spellsUnits_front (.numbered quad) (ih read)
  | case4 a b c d behind quad =>
    rw [readUnits, quad] at reads
    cases reads
  | case5 letter behind noCode c escape ih =>
    rw [readUnits, escape] at reads
    · obtain ⟨later, read, rfl⟩ := consUnit_eq_some reads
      exact spellsUnits_front (.short escape) (ih read)
    · exact noCode
  | case6 letter behind noCode escape =>
    rw [readUnits, escape] at reads
    · cases reads
    · exact noCode
  | case7 c behind noQuote noCode noEscape refused =>
    rw [readUnits, if_pos refused] at reads
    · cases reads
    all_goals assumption
  | case8 c behind noQuote noCode noEscape allowed ih =>
    rw [readUnits, if_neg allowed] at reads
    · simp only [Bool.or_eq_true, decide_eq_true_eq, beq_iff_eq, not_or] at allowed
      obtain ⟨later, read, rfl⟩ := consUnit_eq_some reads
      exact spellsUnits_front (.plain (by omega) noQuote allowed.2) (ih read)
    all_goals assumption

theorem readString_sound {text : Text} {content : Option Text} {rest : Text}
    (reads : readString text = some (content, rest)) :
    ∃ body, SpellsString content body ∧ '"' :: text = body ++ rest := by
  obtain ⟨⟨units, behind⟩, read, same⟩ := Option.map_eq_some_iff.mp reads
  cases same
  obtain ⟨body, spelled, rfl⟩ := readUnits_sound read
  exact ⟨_, ⟨units, body, spelled, rfl, rfl⟩, by simp⟩

/-! ### Numbers -/

/-- The digits at the front of a text, if there are any. -/
theorem digits_split {text : Text} (some : (text.takeWhile Char.isDigit).isEmpty = false) :
    Digits (text.takeWhile Char.isDigit) ∧
      text = text.takeWhile Char.isDigit ++ text.dropWhile Char.isDigit := by
  refine ⟨⟨by simpa using some, fun c member => List.mem_takeWhile_imp member⟩, ?_⟩
  exact List.takeWhile_append_dropWhile.symm

theorem readWhole_sound {text whole rest : Text} (reads : readWhole text = some (whole, rest)) :
    (whole = ['0'] ∨ (Digits whole ∧ whole.head? ≠ some '0')) ∧ text = whole ++ rest := by
  unfold readWhole at reads
  split at reads
  · cases reads
    exact ⟨Or.inl rfl, rfl⟩
  · rename_i noZero
    simp only at reads
    split at reads
    · cases reads
    · rename_i nonempty
      cases reads
      obtain ⟨digits, split⟩ := digits_split (by simpa using nonempty)
      refine ⟨Or.inr ⟨digits, fun zero => ?_⟩, split⟩
      cases text with
      | nil => cases zero
      | cons c later =>
        rw [List.takeWhile_cons] at zero
        split at zero
        · cases zero
          exact noZero later rfl
        · cases zero

theorem readFraction_sound {text fraction rest : Text}
    (reads : readFraction text = some (fraction, rest)) :
    (fraction = [] ∨ ∃ digits, Digits digits ∧ fraction = '.' :: digits) ∧
      text = fraction ++ rest := by
  unfold readFraction at reads
  split at reads
  · simp only at reads
    split at reads
    · cases reads
    · rename_i nonempty
      cases reads
      obtain ⟨digits, split⟩ := digits_split (by simpa using nonempty)
      exact ⟨Or.inr ⟨_, digits, rfl⟩, congrArg ('.' :: ·) split⟩
  · cases reads
    exact ⟨Or.inl rfl, rfl⟩

theorem readSign_sound (text : Text) :
    ((readSign text).1 = [] ∨ (readSign text).1 = ['+'] ∨ (readSign text).1 = ['-']) ∧
      text = (readSign text).1 ++ (readSign text).2 := by
  unfold readSign
  split
  · exact ⟨Or.inr (Or.inl rfl), rfl⟩
  · exact ⟨Or.inr (Or.inr rfl), rfl⟩
  · exact ⟨Or.inl rfl, rfl⟩

theorem readExponent_sound {text exponent rest : Text}
    (reads : readExponent text = some (exponent, rest)) :
    (exponent = [] ∨ ∃ letter sign digits, (letter = 'e' ∨ letter = 'E') ∧
      (sign = [] ∨ sign = ['+'] ∨ sign = ['-']) ∧ Digits digits ∧
      exponent = letter :: (sign ++ digits)) ∧
      text = exponent ++ rest := by
  unfold readExponent at reads
  split at reads
  · rename_i c later
    split at reads
    · rename_i isLetter
      obtain ⟨signed, shape⟩ := readSign_sound later
      simp only at reads
      split at reads
      · cases reads
      · rename_i nonempty
        cases reads
        obtain ⟨digits, split⟩ := digits_split (by simpa using nonempty)
        refine ⟨Or.inr ⟨c, _, _, by simpa using isLetter, signed, digits, rfl⟩, ?_⟩
        rw [List.cons_append, List.cons_append, List.append_assoc, ← split, ← shape]
    · cases reads
      exact ⟨Or.inl rfl, rfl⟩
  · cases reads
    exact ⟨Or.inl rfl, rfl⟩

theorem readUnsigned_sound {negative : Bool} {text : Text} {numeral : Numeral} {rest : Text}
    (reads : readUnsigned negative text = some (numeral, rest)) :
    numeral.negative = negative ∧ numeral.WellFormed ∧
      text = numeral.whole ++ numeral.fraction ++ numeral.exponent ++ rest := by
  unfold readUnsigned at reads
  simp only [bind, Option.bind_eq_some_iff, Prod.exists] at reads
  obtain ⟨whole, afterWhole, readsWhole, fraction, afterFraction, readsFraction, exponent,
    afterExponent, readsExponent, same⟩ := reads
  cases same
  obtain ⟨isWhole, rfl⟩ := readWhole_sound readsWhole
  obtain ⟨isFraction, rfl⟩ := readFraction_sound readsFraction
  obtain ⟨isExponent, rfl⟩ := readExponent_sound readsExponent
  exact ⟨rfl, ⟨isWhole, isFraction, isExponent⟩, by simp⟩

/-- **A number that is read is well-formed**, and written as it stands. -/
theorem readNumeral_sound {text : Text} {numeral : Numeral} {rest : Text}
    (reads : readNumeral text = some (numeral, rest)) :
    numeral.WellFormed ∧ text = numeral.text ++ rest := by
  unfold readNumeral at reads
  split at reads
  · obtain ⟨negative, wellFormed, shape⟩ := readUnsigned_sound reads
    refine ⟨wellFormed, ?_⟩
    rw [Numeral.text, negative, shape]
    simp
  · obtain ⟨negative, wellFormed, shape⟩ := readUnsigned_sound reads
    refine ⟨wellFormed, ?_⟩
    rw [Numeral.text, negative, shape]
    simp

/-! ### Values -/

/-- With this many steps, only spelled values are read. -/
def ValuesSound (steps : Nat) : Prop :=
  ∀ {text : Text} {value : Json} {rest : Text}, readValue steps text = some (value, rest) →
    ∃ body, Spells value body ∧ text = body ++ rest

/-- With this many steps, only spelled items are read. -/
def ItemsSound (steps : Nat) : Prop :=
  ∀ {text : Text} {items : List Json} {rest : Text}, readItems steps text = some (items, rest) →
    ∃ body, SpellsItems items body ∧ text = body ++ rest

/-- With this many steps, only spelled members are read. -/
def MembersSound (steps : Nat) : Prop :=
  ∀ {text : Text} {members : List (Option Text × Json)} {rest : Text},
    readMembers steps text = some (members, rest) →
      ∃ body, SpellsMembers members body ∧ text = body ++ rest

theorem readWord_sound {word : String} {value : Json} {text : Text} {reading : Json × Text}
    (reads : readWord word value text = some reading) :
    reading.1 = value ∧ text = word.toList ++ reading.2 := by
  obtain ⟨rest, begins, rfl⟩ := Option.map_eq_some_iff.mp reads
  exact ⟨rfl, (List.isPrefixOf?_eq_some_iff_append_eq.mp begins).symm⟩

theorem valuesSound_succ {steps : Nat} (items : ItemsSound steps) (members : MembersSound steps) :
    ValuesSound (steps + 1) := by
  intro text value rest reads
  unfold readValue at reads
  split at reads
  · obtain ⟨⟨content, behind⟩, read, same⟩ := Option.map_eq_some_iff.mp reads
    cases same
    obtain ⟨body, quoted, shape⟩ := readString_sound read
    exact ⟨body, .string quoted, shape⟩
  · rename_i inside
    obtain ⟨gap, blank, shape⟩ := skipBlanks_split inside
    split at reads
    · rename_i behind ends
      cases reads
      rw [ends] at shape
      exact ⟨_, .emptyArray blank, by rw [shape]; simp⟩
    · obtain ⟨⟨list, behind⟩, read, same⟩ := Option.map_eq_some_iff.mp reads
      cases same
      obtain ⟨body, spelled, front⟩ := items read
      exact ⟨_, .array blank spelled, by rw [shape, front]; simp⟩
  · rename_i inside
    obtain ⟨gap, blank, shape⟩ := skipBlanks_split inside
    split at reads
    · rename_i behind ends
      cases reads
      rw [ends] at shape
      exact ⟨_, .emptyObject blank, by rw [shape]; simp⟩
    · obtain ⟨⟨list, behind⟩, read, same⟩ := Option.map_eq_some_iff.mp reads
      cases same
      obtain ⟨body, spelled, front⟩ := members read
      exact ⟨_, .object blank spelled, by rw [shape, front]; simp⟩
  · obtain ⟨rfl, shape⟩ := readWord_sound reads
    exact ⟨_, .null, shape⟩
  · obtain ⟨rfl, shape⟩ := readWord_sound reads
    exact ⟨_, .yes, shape⟩
  · obtain ⟨rfl, shape⟩ := readWord_sound reads
    exact ⟨_, .no, shape⟩
  · obtain ⟨⟨numeral, behind⟩, read, same⟩ := Option.map_eq_some_iff.mp reads
    cases same
    obtain ⟨wellFormed, shape⟩ := readNumeral_sound read
    exact ⟨_, .number wellFormed, shape⟩

theorem itemsSound_succ {steps : Nat} (values : ValuesSound steps) (items : ItemsSound steps) :
    ItemsSound (steps + 1) := by
  intro text list rest reads
  rw [readItems] at reads
  obtain ⟨⟨item, afterItem⟩, readsItem, goesOn⟩ := Option.bind_eq_some_iff.mp reads
  obtain ⟨itemText, spelled, rfl⟩ := values readsItem
  obtain ⟨gap, ended, shape⟩ := skipBlanks_split afterItem
  simp only at goesOn
  split at goesOn
  · rename_i ends
    cases goesOn
    rw [ends] at shape
    exact ⟨_, .last spelled ended, by rw [shape]; simp⟩
  · rename_i afterComma ends
    obtain ⟨⟨later, afterLater⟩, readsLater, same⟩ := Option.bind_eq_some_iff.mp goesOn
    cases same
    obtain ⟨comma, parted, behind⟩ := skipBlanks_split afterComma
    obtain ⟨body, others, front⟩ := items readsLater
    rw [ends, behind, front] at shape
    exact ⟨_, .cons spelled ended parted others, by rw [shape]; simp⟩
  · cases goesOn

theorem membersSound_succ {steps : Nat} (values : ValuesSound steps)
    (members : MembersSound steps) : MembersSound (steps + 1) := by
  intro text list rest reads
  unfold readMembers at reads
  simp only at reads
  split at reads
  · rename_i inside
    obtain ⟨⟨key, afterKey⟩, readsKey, reads⟩ := Option.bind_eq_some_iff.mp reads
    obtain ⟨keyText, quoted, keyShape⟩ := readString_sound readsKey
    obtain ⟨keyGap, named, nameShape⟩ := skipBlanks_split afterKey
    simp only at reads
    split at reads
    · rename_i afterColon colon
      obtain ⟨⟨value, afterValue⟩, readsValue, reads⟩ := Option.bind_eq_some_iff.mp reads
      obtain ⟨colonGap, opened, colonShape⟩ := skipBlanks_split afterColon
      obtain ⟨valueText, spelled, valueShape⟩ := values readsValue
      obtain ⟨valueGap, ended, endShape⟩ := skipBlanks_split afterValue
      rw [keyShape, nameShape, colon, colonShape, valueShape]
      simp only at reads
      split at reads
      · rename_i ends
        cases reads
        rw [endShape, ends]
        exact ⟨_, .last quoted named opened spelled ended, by simp⟩
      · rename_i afterComma ends
        obtain ⟨⟨later, afterLater⟩, readsLater, same⟩ := Option.bind_eq_some_iff.mp reads
        cases same
        obtain ⟨comma, parted, commaShape⟩ := skipBlanks_split afterComma
        obtain ⟨body, others, front⟩ := members readsLater
        rw [endShape, ends, commaShape, front]
        exact ⟨_, .cons quoted named opened spelled ended parted others, by simp⟩
      · cases reads
    · cases reads
  · cases reads

/-- **What is read was spelled**, however many steps were allowed. -/
theorem read_sound (steps : Nat) :
    ValuesSound steps ∧ ItemsSound steps ∧ MembersSound steps := by
  induction steps with
  | zero =>
    refine ⟨?_, ?_, ?_⟩ <;>
      (intro text read rest reads; cases reads)
  | succ steps ih =>
    obtain ⟨values, items, members⟩ := ih
    exact ⟨valuesSound_succ items members, itemsSound_succ values items,
      membersSound_succ values members⟩

/-- **A document is read as the value that it spells between blanks**, and as no other. -/
theorem parse?_eq_some_iff {text : Text} {value : Json} :
    parse? text = some value ↔ ∃ before body after, Blanks before ∧ Spells value body ∧
      Blanks after ∧ text = before ++ (body ++ after) := by
  constructor
  · intro reads
    obtain ⟨⟨found, rest⟩, read, ended⟩ := Option.bind_eq_some_iff.mp reads
    obtain ⟨before, leading, front⟩ := skipBlanks_split text
    obtain ⟨body, spelled, shape⟩ := (read_sound _).1 read
    obtain ⟨after, trailing, back⟩ := skipBlanks_split rest
    simp only at ended
    split at ended
    · rename_i empty
      cases ended
      rw [List.isEmpty_iff.mp empty, List.append_nil] at back
      exact ⟨before, body, after, leading, spelled, trailing, by rw [front, shape, back]⟩
    · cases ended
  · rintro ⟨before, body, after, leading, spelled, trailing, rfl⟩
    exact parse?_spells leading spelled trailing

/-! ### What follows a value -/

/-- The first character tells an array or an object from all else. -/
theorem Spells.structured_iff {value : Json} {text : Text} (spelled : Spells value text) :
    Structured value ↔ text.head? = some '[' ∨ text.head? = some '\x7b' := by
  cases spelled with
  | null => exact iff_of_false id (by decide)
  | yes => exact iff_of_false id (by decide)
  | no => exact iff_of_false id (by decide)
  | number wellFormed =>
    obtain ⟨c, later, shape, kind⟩ := text_head wellFormed
    refine ⟨False.elim, fun first => ?_⟩
    rw [shape] at first
    rcases first with same | same <;> cases same <;> rcases kind with kind | kind <;> cases kind
  | string quoted =>
    obtain ⟨units, body, _, _, rfl⟩ := quoted
    simp [Structured]
  | emptyArray => simp [Structured]
  | array => simp [Structured]
  | emptyObject => simp [Structured]
  | object => simp [Structured]

/-- Whatever follows it, a text that begins with an array or an object is read as nothing else. -/
theorem structured_of_parse? {value found : Json} {before body after : Text}
    (leading : Blanks before) (spelled : Spells value body)
    (reads : parse? (before ++ (body ++ after)) = some found) :
    Structured found ↔ Structured value := by
  obtain ⟨otherBefore, other, otherAfter, blank, otherSpelled, _, same⟩ :=
    parse?_eq_some_iff.mp reads
  -- Both values begin at the first character that is no blank.
  have front : body ++ after = other ++ otherAfter := by
    have skipped := congrArg skipBlanks same
    rwa [skipBlanks_opens leading (spelled.opens.append after),
      skipBlanks_opens blank (otherSpelled.opens.append otherAfter)] at skipped
  obtain ⟨c, later, rfl, _⟩ := spelled.opens
  obtain ⟨d, otherLater, rfl, _⟩ := otherSpelled.opens
  obtain ⟨rfl, _⟩ := List.cons.inj front
  rw [spelled.structured_iff, otherSpelled.structured_iff]
  rfl

/-- **Nothing but blanks may follow an array or an object.** -/
theorem parse?_structured {value : Json} {before body after : Text} (leading : Blanks before)
    (spelled : Spells value body) (structured : Structured value) (trailing : ¬ Blanks after) :
    parse? (before ++ (body ++ after)) = none := by
  have enough : 2 * body.length ≤ 2 * (before ++ (body ++ after)).length + 1 := by
    simp only [List.length_append]
    omega
  obtain ⟨_, items, members⟩ := read_spells (2 * (before ++ (body ++ after)).length)
  have read := readValue_structured items members spelled structured after enough
  have remains : (skipBlanks after).isEmpty = false := by
    rw [List.isEmpty_eq_false_iff]
    intro none
    obtain ⟨gap, blank, shape⟩ := skipBlanks_split after
    rw [none, List.append_nil] at shape
    exact trailing (shape ▸ blank)
  unfold parse?
  rw [skipBlanks_opens leading (spelled.opens.append after), read]
  simp only [bind, Option.bind_some, remains]
  rfl

end ExportManifest.Json
