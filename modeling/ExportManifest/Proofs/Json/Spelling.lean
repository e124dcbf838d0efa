/-
**How JSON values are spelled, and that every spelling is read.**

`Spells value text` is the grammar of JSON as a relation: blanks may stand between any two tokens,
a character of a string may be plain, a short escape or an escape by number, and a number is a
whole part with an optional fraction and exponent. The relation says nothing of steps or of what
follows the text.

* `readUnits_spells`: a reader takes a string up to its closing quote and gives its units.
* `readNumeral_text`: a reader takes a well-formed number and stops behind it.
* `read_spells`: **what is spelled is read**, for any text behind it that can follow a value. The
  steps a reader needs are twice the length of what it reads: an array or object takes one
  character before its first item, and every item is followed by one more.
* `parse?_spells`: a document that spells a value between blanks is read as that value.
-/

import ExportManifest.Json.Reader

namespace ExportManifest.Json

/-! ### The grammar -/

/-- The text holds blanks only. -/
def Blanks (text : Text) : Prop :=
  ∀ c ∈ text, isBlank c = true

/-- How one unit of a string is written. -/
inductive SpellsUnit : StringUnit → Text → Prop
  | plain {c : Char} (visible : 0x20 ≤ c.toNat) (noQuote : c ≠ '"') (noBackslash : c ≠ '\\') :
    SpellsUnit (.char c) [c]
  | short {letter c : Char} (escape : shortEscape? letter = some c) :
    SpellsUnit (.char c) ['\\', letter]
  | numbered {a b c d : Char} {unit : Nat} (quad : hexQuad? a b c d = some unit) :
    SpellsUnit (.code unit) ['\\', 'u', a, b, c, d]

/-- How the units of a string are written between its quotes. -/
inductive SpellsUnits : List StringUnit → Text → Prop
  | nil : SpellsUnits [] []
  | cons {unit : StringUnit} {units : List StringUnit} {front back : Text}
    (first : SpellsUnit unit front) (later : SpellsUnits units back) :
    SpellsUnits (unit :: units) (front ++ back)

/-- How a string with the given content is written, quotes included. -/
def SpellsString (content : Option Text) (text : Text) : Prop :=
  ∃ units body, SpellsUnits units body ∧ content = spelled? units ∧ text = '"' :: (body ++ ['"'])

/-- One or more digits. -/
def Digits (text : Text) : Prop :=
  text ≠ [] ∧ ∀ c ∈ text, c.isDigit = true

/-- The parts of a number are those that the grammar allows. -/
structure Numeral.WellFormed (numeral : Numeral) : Prop where
  whole : numeral.whole = ['0'] ∨ (Digits numeral.whole ∧ numeral.whole.head? ≠ some '0')
  fraction : numeral.fraction = [] ∨ ∃ digits, Digits digits ∧ numeral.fraction = '.' :: digits
  exponent : numeral.exponent = [] ∨ ∃ letter sign digits, (letter = 'e' ∨ letter = 'E') ∧
    (sign = [] ∨ sign = ['+'] ∨ sign = ['-']) ∧ Digits digits ∧
    numeral.exponent = letter :: (sign ++ digits)

mutual

/-- How a value is written, from its first character to its last. -/
inductive Spells : Json → Text → Prop
  | null : Spells .null "null".toList
  | yes : Spells (.bool true) "true".toList
  | no : Spells (.bool false) "false".toList
  | number {numeral : Numeral} (wellFormed : numeral.WellFormed) :
    Spells (.number numeral) numeral.text
  | string {content : Option Text} {text : Text} (quoted : SpellsString content text) :
    Spells (.string content) text
  | emptyArray {gap : Text} (blank : Blanks gap) : Spells (.array []) ('[' :: (gap ++ [']']))
  | array {items : List Json} {gap body : Text} (blank : Blanks gap)
    (inside : SpellsItems items body) : Spells (.array items) ('[' :: (gap ++ body))
  | emptyObject {gap : Text} (blank : Blanks gap) :
    Spells (.object []) ('\x7b' :: (gap ++ ['\x7d']))
  | object {members : List (Option Text × Json)} {gap body : Text} (blank : Blanks gap)
    (inside : SpellsMembers members body) : Spells (.object members) ('\x7b' :: (gap ++ body))

/-- How the items of an array are written, from the first of them to the closing bracket. -/
inductive SpellsItems : List Json → Text → Prop
  | last {item : Json} {text afterItem : Text} (spelled : Spells item text)
    (ended : Blanks afterItem) : SpellsItems [item] (text ++ (afterItem ++ [']']))
  | cons {item : Json} {later : List Json} {text afterItem afterComma body : Text}
    (spelled : Spells item text) (ended : Blanks afterItem) (parted : Blanks afterComma)
    (others : SpellsItems later body) :
    SpellsItems (item :: later) (text ++ (afterItem ++ ',' :: (afterComma ++ body)))

/-- How the members of an object are written, from the first of them to the closing brace. -/
inductive SpellsMembers : List (Option Text × Json) → Text → Prop
  | last {key : Option Text} {value : Json} {keyText afterKey afterColon text afterValue : Text}
    (quoted : SpellsString key keyText) (named : Blanks afterKey) (opened : Blanks afterColon)
    (spelled : Spells value text) (ended : Blanks afterValue) :
    SpellsMembers [(key, value)]
      (keyText ++ (afterKey ++ ':' :: (afterColon ++ (text ++ (afterValue ++ ['\x7d'])))))
  | cons {key : Option Text} {value : Json} {later : List (Option Text × Json)}
    {keyText afterKey afterColon text afterValue afterComma body : Text}
    (quoted : SpellsString key keyText) (named : Blanks afterKey) (opened : Blanks afterColon)
    (spelled : Spells value text) (ended : Blanks afterValue) (parted : Blanks afterComma)
    (others : SpellsMembers later body) :
    SpellsMembers ((key, value) :: later)
      (keyText ++ (afterKey ++ ':' ::
        (afterColon ++ (text ++ (afterValue ++ ',' :: (afterComma ++ body))))))

end

/-- What may follow a value: nothing, a blank, or a mark that ends an item or a member. -/
def Closed (rest : Text) : Prop :=
  ∀ c ∈ rest.head?, isBlank c = true ∨ c = ',' ∨ c = ']' ∨ c = '\x7d'

/-! ### Blanks -/

/-- Blanks in front of something that is no blank are skipped, and nothing else. -/
theorem skipBlanks_append {gap rest : Text} (blank : Blanks gap)
    (stops : ∀ c ∈ rest.head?, isBlank c = false) : skipBlanks (gap ++ rest) = rest := by
  unfold skipBlanks
  rw [List.dropWhile_append_of_pos blank]
  cases rest with
  | nil => rfl
  | cons c later => rw [List.dropWhile_cons_of_neg (by simp [stops c rfl])]

theorem skipBlanks_append_cons {gap rest : Text} {c : Char} (blank : Blanks gap)
    (stops : isBlank c = false) : skipBlanks (gap ++ c :: rest) = c :: rest := by
  apply skipBlanks_append blank
  intro first here
  cases here
  exact stops

/-! ### Strings -/

/-- A reader takes one unit as it is written. -/
theorem readUnits_unit {unit : StringUnit} {text : Text} (spelled : SpellsUnit unit text)
    (rest : Text) : readUnits (text ++ rest) = consUnit unit (readUnits rest) := by
  cases spelled with
  | @plain c visible noQuote noBackslash =>
    rw [List.singleton_append, readUnits]
    · rw [if_neg]
      simp only [Bool.or_eq_true, decide_eq_true_eq, beq_iff_eq, not_or]
      exact ⟨by omega, noBackslash⟩
    · exact noQuote
    · exact fun _ _ _ _ _ same => absurd same noBackslash
    · exact fun _ _ same => absurd same noBackslash
  | @short letter c escape =>
    have noCode : letter ≠ 'u' := by
      rintro rfl
      cases escape
    rw [List.cons_append, List.singleton_append, readUnits, escape]
    intro _ _ _ _ _ code
    exact absurd code noCode
  | numbered quad =>
    simp only [List.cons_append, List.nil_append, readUnits, quad]

/-- **A string is read up to its closing quote**, and gives the units it is written with. -/
theorem readUnits_spells {units : List StringUnit} {body : Text} (spelled : SpellsUnits units body)
    (rest : Text) : readUnits (body ++ '"' :: rest) = some (units, rest) := by
  induction spelled with
  | nil => rfl
  | cons first later ih =>
    rw [List.append_assoc, readUnits_unit first, ih]
    rfl

/-- A string between its quotes is read as its content. -/
theorem readString_spells {content : Option Text} {text : Text}
    (quoted : SpellsString content text) (rest : Text) :
    ∃ inside, text ++ rest = '"' :: inside ∧ readString inside = some (content, rest) := by
  obtain ⟨units, body, spelled, rfl, rfl⟩ := quoted
  refine ⟨body ++ '"' :: rest, by simp, ?_⟩
  unfold readString
  rw [readUnits_spells spelled]
  rfl

/-- A code unit outside the surrogates stands for its character. -/
theorem spelled?_code {unit : Nat} (noHalf : ¬ (0xd800 ≤ unit ∧ unit < 0xe000))
    (rest : List StringUnit) :
    spelled? (.code unit :: rest) = (spelled? rest).map (Char.ofNat unit :: ·) := by
  have noHigh : ¬ (0xd800 ≤ unit ∧ unit < 0xdc00) := by omega
  have noLow : ¬ (0xdc00 ≤ unit ∧ unit < 0xe000) := by omega
  rw [spelled?.eq_def]
  split
  · simp_all
  · simp_all
  · rename_i high low later same
    obtain ⟨rfl, rfl⟩ : unit = high ∧ rest = .code low :: later := by simpa using same
    rw [if_neg noHigh, if_neg noLow]
  · rename_i code later _ same
    obtain ⟨rfl, rfl⟩ : unit = code ∧ rest = later := by simpa using same
    rw [if_neg noHalf]

/-! ### Numbers -/

/-- A run of digits is taken whole when something else follows it. -/
theorem takeWhile_digits {digits rest : Text} (run : ∀ c ∈ digits, c.isDigit = true)
    (stops : ∀ c ∈ rest.head?, c.isDigit = false) :
    (digits ++ rest).takeWhile Char.isDigit = digits ∧
      (digits ++ rest).dropWhile Char.isDigit = rest := by
  rw [List.takeWhile_append_of_pos run, List.dropWhile_append_of_pos run]
  cases rest with
  | nil => simp
  | cons c later =>
    have stop : ¬ c.isDigit = true := by simp [stops c rfl]
    rw [List.takeWhile_cons_of_neg stop, List.dropWhile_cons_of_neg stop, List.append_nil]
    exact ⟨rfl, rfl⟩

/-- What may follow a value continues no number. -/
theorem Closed.stops {rest : Text} (closed : Closed rest) {c : Char} (first : c ∈ rest.head?) :
    c.isDigit = false ∧ c ≠ '.' ∧ c ≠ 'e' ∧ c ≠ 'E' := by
  have follows := closed c first
  simp only [isBlank, Bool.or_eq_true, beq_iff_eq] at follows
  rcases follows with ((((rfl | rfl) | rfl) | rfl) | rfl | rfl | rfl) <;> decide

/-- The exponent of a number is read as it is written. -/
theorem readExponent_append {numeral : Numeral} (wellFormed : numeral.WellFormed) {rest : Text}
    (closed : Closed rest) :
    readExponent (numeral.exponent ++ rest) = some (numeral.exponent, rest) := by
  rcases wellFormed.exponent with none | ⟨letter, sign, digits, isLetter, isSign, run, same⟩
  · rw [none, List.nil_append]
    cases rest with
    | nil => rfl
    | cons c later =>
      obtain ⟨_, _, noSmall, noLarge⟩ := closed.stops (c := c) rfl
      rw [readExponent, if_neg (by simp [noSmall, noLarge])]
  · have taken := takeWhile_digits run.2 fun c first => (closed.stops first).1
    have signRead : readSign (sign ++ (digits ++ rest)) = (sign, digits ++ rest) := by
      obtain ⟨digit, others, shape⟩ := List.exists_cons_of_ne_nil run.1
      have isDigit : digit.isDigit = true := run.2 digit (by rw [shape]; simp)
      rcases isSign with rfl | rfl | rfl
      · rw [shape, List.nil_append, List.cons_append, readSign]
        · intro _ starts
          cases starts
          cases isDigit
        · intro _ starts
          cases starts
          cases isDigit
      · rfl
      · rfl
    have letterTest : (letter == 'e' || letter == 'E') = true := by
      rcases isLetter with rfl | rfl <;> rfl
    rw [same, List.cons_append, List.append_assoc, readExponent, if_pos letterTest]
    simp only [signRead, taken.1, taken.2, List.isEmpty_eq_false_iff.mpr run.1]
    rfl

/-- What follows the whole part and the fraction of a number does not start with a digit. -/
theorem exponent_stops {numeral : Numeral} (wellFormed : numeral.WellFormed) {rest : Text}
    (closed : Closed rest) {c : Char} (first : c ∈ (numeral.exponent ++ rest).head?) :
    c.isDigit = false ∧ c ≠ '.' := by
  rcases wellFormed.exponent with none | ⟨letter, sign, digits, isLetter, _, _, same⟩
  · rw [none, List.nil_append] at first
    exact ⟨(closed.stops first).1, (closed.stops first).2.1⟩
  · rw [same] at first
    cases first
    rcases isLetter with rfl | rfl <;> decide

/-- The fraction of a number is read as it is written. -/
theorem readFraction_append {numeral : Numeral} (wellFormed : numeral.WellFormed) {rest : Text}
    (closed : Closed rest) :
    readFraction (numeral.fraction ++ (numeral.exponent ++ rest)) =
      some (numeral.fraction, numeral.exponent ++ rest) := by
  have stops := fun (c : Char) first => exponent_stops wellFormed closed (c := c) first
  rcases wellFormed.fraction with none | ⟨digits, run, same⟩
  · rw [none, List.nil_append, readFraction]
    intro later starts
    exact (stops '.' (by rw [starts]; rfl)).2 rfl
  · have taken := takeWhile_digits run.2 fun c first => (stops c first).1
    rw [same, List.cons_append, readFraction]
    simp only [taken.1, taken.2, List.isEmpty_eq_false_iff.mpr run.1]
    rfl

/-- The whole part of a number is read as it is written. -/
theorem readWhole_append {numeral : Numeral} (wellFormed : numeral.WellFormed) {rest : Text}
    (closed : Closed rest) :
    readWhole (numeral.whole ++ (numeral.fraction ++ (numeral.exponent ++ rest))) =
      some (numeral.whole, numeral.fraction ++ (numeral.exponent ++ rest)) := by
  have stops : ∀ c ∈ (numeral.fraction ++ (numeral.exponent ++ rest)).head?, c.isDigit = false := by
    intro c first
    rcases wellFormed.fraction with none | ⟨digits, _, same⟩
    · rw [none, List.nil_append] at first
      exact (exponent_stops wellFormed closed first).1
    · rw [same] at first
      cases first
      rfl
  rcases wellFormed.whole with zero | ⟨run, noZero⟩
  · rw [zero]
    rfl
  · have taken := takeWhile_digits run.2 stops
    unfold readWhole
    split
    · rename_i later starts
      obtain ⟨digit, others, shape⟩ := List.exists_cons_of_ne_nil run.1
      rw [shape] at starts noZero
      cases starts
      exact absurd rfl noZero
    · simp only [taken.1, taken.2, List.isEmpty_eq_false_iff.mpr run.1]
      rfl

/-- The first character of the whole part of a number is a digit. -/
theorem whole_head {numeral : Numeral} (wellFormed : numeral.WellFormed) :
    ∃ digit others, numeral.whole = digit :: others ∧ digit.isDigit = true := by
  rcases wellFormed.whole with zero | ⟨run, _⟩
  · exact ⟨'0', [], zero, rfl⟩
  · obtain ⟨digit, others, shape⟩ := List.exists_cons_of_ne_nil run.1
    exact ⟨digit, others, shape, run.2 digit (by rw [shape]; simp)⟩

/-- **A number is read as it is written**, up to what ends it. -/
theorem readNumeral_text {numeral : Numeral} (wellFormed : numeral.WellFormed) {rest : Text}
    (closed : Closed rest) : readNumeral (numeral.text ++ rest) = some (numeral, rest) := by
  have unsigned : ∀ negative, readUnsigned negative
      (numeral.whole ++ (numeral.fraction ++ (numeral.exponent ++ rest))) =
        some ({ numeral with negative }, rest) := by
    intro negative
    unfold readUnsigned
    rw [readWhole_append wellFormed closed]
    simp only [bind, Option.bind_some]
    rw [readFraction_append wellFormed closed]
    simp only [Option.bind_some]
    rw [readExponent_append wellFormed closed]
    rfl
  unfold Numeral.text
  cases sign : numeral.negative with
  | true =>
    simp only [if_true, List.append_assoc]
    refine (unsigned true).trans ?_
    rw [← sign]
  | false =>
    simp only [Bool.false_eq_true, if_false, List.nil_append, List.append_assoc]
    obtain ⟨digit, others, shape, isDigit⟩ := whole_head wellFormed
    rw [readNumeral, unsigned, ← sign]
    rw [shape]
    rintro later starts
    cases starts
    cases isDigit

/-! ### Values -/

/-- The first character of a spelled value is neither blank nor a mark that ends something. -/
def Opens (text : Text) : Prop :=
  ∃ c later, text = c :: later ∧ isBlank c = false ∧ c ≠ ']' ∧ c ≠ '\x7d'

theorem Opens.append {text : Text} (opens : Opens text) (rest : Text) : Opens (text ++ rest) := by
  obtain ⟨c, later, rfl, facts⟩ := opens
  exact ⟨c, later ++ rest, rfl, facts⟩

theorem digit_opens {c : Char} (isDigit : c.isDigit = true) :
    isBlank c = false ∧ c ≠ ']' ∧ c ≠ '\x7d' := by
  refine ⟨?_, ?_, ?_⟩
  · cases blank : isBlank c with
    | false => rfl
    | true =>
      simp only [isBlank, Bool.or_eq_true, beq_iff_eq] at blank
      rcases blank with ((rfl | rfl) | rfl) | rfl <;> cases isDigit
  · rintro rfl
    cases isDigit
  · rintro rfl
    cases isDigit

/-- The text of a number starts with a minus sign or a digit. -/
theorem text_head {numeral : Numeral} (wellFormed : numeral.WellFormed) :
    ∃ c later, numeral.text = c :: later ∧ (c = '-' ∨ c.isDigit = true) := by
  obtain ⟨digit, others, shape, isDigit⟩ := whole_head wellFormed
  unfold Numeral.text
  cases numeral.negative with
  | true => exact ⟨'-', _, rfl, Or.inl rfl⟩
  | false => exact ⟨digit, _, by rw [shape]; rfl, Or.inr isDigit⟩

theorem SpellsString.opens {content : Option Text} {text : Text}
    (quoted : SpellsString content text) : Opens text := by
  obtain ⟨units, body, _, _, rfl⟩ := quoted
  exact ⟨'"', _, rfl, by decide⟩

theorem Spells.opens {value : Json} {text : Text} (spelled : Spells value text) : Opens text := by
  cases spelled with
  | null => exact ⟨'n', _, rfl, by decide⟩
  | yes => exact ⟨'t', _, rfl, by decide⟩
  | no => exact ⟨'f', _, rfl, by decide⟩
  | number wellFormed =>
    obtain ⟨c, later, shape, kind⟩ := text_head wellFormed
    rcases kind with rfl | isDigit
    · exact ⟨'-', later, shape, by decide⟩
    · exact ⟨c, later, shape, digit_opens isDigit⟩
  | string quoted => exact quoted.opens
  | emptyArray => exact ⟨'[', _, rfl, by decide⟩
  | array => exact ⟨'[', _, rfl, by decide⟩
  | emptyObject => exact ⟨'\x7b', _, rfl, by decide⟩
  | object => exact ⟨'\x7b', _, rfl, by decide⟩

theorem SpellsItems.opens {items : List Json} {body : Text} (spelled : SpellsItems items body) :
    Opens body := by
  cases spelled with
  | last spelled => exact spelled.opens.append _
  | cons spelled => exact spelled.opens.append _

theorem SpellsMembers.opens {members : List (Option Text × Json)} {body : Text}
    (spelled : SpellsMembers members body) : Opens body := by
  cases spelled with
  | last quoted => exact quoted.opens.append _
  | cons quoted => exact quoted.opens.append _

/-- Blanks in front of something that opens are skipped. -/
theorem skipBlanks_opens {gap text : Text} (blank : Blanks gap) (opens : Opens text) :
    skipBlanks (gap ++ text) = text := by
  obtain ⟨c, later, rfl, notBlank, _⟩ := opens
  exact skipBlanks_append_cons blank notBlank

/-- A value that starts with a minus sign or a digit is a number. -/
theorem readValue_numeral (steps : Nat) {c : Char} {later : Text}
    (kind : c = '-' ∨ c.isDigit = true) :
    readValue (steps + 1) (c :: later) =
      (readNumeral (c :: later)).map fun reading => (.number reading.1, reading.2) := by
  rw [readValue]
  all_goals
    rintro rest starts
    cases starts
    rcases kind with kind | kind <;> cases kind

/-- An array whose first item opens is read by its items. -/
theorem readValue_array (steps : Nat) {gap body : Text} (blank : Blanks gap) (opens : Opens body) :
    readValue (steps + 1) ('[' :: (gap ++ body)) =
      (readItems steps body).map fun reading => (.array reading.1, reading.2) := by
  rw [readValue, skipBlanks_opens blank opens]
  obtain ⟨c, later, rfl, _, noBracket, _⟩ := opens
  split
  · rename_i starts
    cases starts
    exact absurd rfl noBracket
  · rfl

/-- An object whose first member opens is read by its members. -/
theorem readValue_object (steps : Nat) {gap body : Text} (blank : Blanks gap)
    (opens : Opens body) :
    readValue (steps + 1) ('\x7b' :: (gap ++ body)) =
      (readMembers steps body).map fun reading => (.object reading.1, reading.2) := by
  rw [readValue, skipBlanks_opens blank opens]
  obtain ⟨c, later, rfl, _, _, noBrace⟩ := opens
  split
  · rename_i starts
    cases starts
    exact absurd rfl noBrace
  · rfl

/-- Blanks and a mark behind them may follow a value. -/
theorem closed_append {gap : Text} (blank : Blanks gap) {mark : Char}
    (marks : mark = ',' ∨ mark = ']' ∨ mark = '\x7d') (rest : Text) :
    Closed (gap ++ mark :: rest) := by
  intro c first
  cases gap with
  | nil =>
    cases first
    exact Or.inr marks
  | cons d later =>
    cases first
    exact Or.inl (blank c (by simp))

/-! ### Every spelling is read -/

/-- With this many steps, spelled values are read. -/
def ReadsValues (steps : Nat) : Prop :=
  ∀ {value : Json} {text rest : Text}, Spells value text → Closed rest →
    2 * text.length ≤ steps → readValue steps (text ++ rest) = some (value, rest)

/-- With this many steps, spelled items are read. -/
def ReadsItems (steps : Nat) : Prop :=
  ∀ {items : List Json} {body : Text} (rest : Text), SpellsItems items body →
    2 * body.length ≤ steps → readItems steps (body ++ rest) = some (items, rest)

/-- With this many steps, spelled members are read. -/
def ReadsMembers (steps : Nat) : Prop :=
  ∀ {members : List (Option Text × Json)} {body : Text} (rest : Text),
    SpellsMembers members body → 2 * body.length ≤ steps →
      readMembers steps (body ++ rest) = some (members, rest)

/-- An array or an object. -/
def Structured : Json → Prop
  | .array _ => True
  | .object _ => True
  | _ => False

/-- An array or an object ends itself: it is read whatever follows its last character. -/
theorem readValue_structured {steps : Nat} (items : ReadsItems steps)
    (members : ReadsMembers steps) {value : Json} {text : Text} (spelled : Spells value text)
    (structured : Structured value) (rest : Text) (enough : 2 * text.length ≤ steps + 1) :
    readValue (steps + 1) (text ++ rest) = some (value, rest) := by
  cases spelled with
  | emptyArray blank =>
    rw [List.cons_append, List.append_assoc, List.singleton_append, readValue,
      skipBlanks_append_cons blank rfl]
    rfl
  | array blank inside =>
    rw [List.cons_append, List.append_assoc, readValue_array steps blank (inside.opens.append rest),
      items rest inside (by simp only [List.length_cons, List.length_append] at enough; omega)]
    rfl
  | emptyObject blank =>
    rw [List.cons_append, List.append_assoc, List.singleton_append, readValue,
      skipBlanks_append_cons blank rfl]
    rfl
  | object blank inside =>
    rw [List.cons_append, List.append_assoc,
      readValue_object steps blank (inside.opens.append rest),
      members rest inside (by simp only [List.length_cons, List.length_append] at enough; omega)]
    rfl
  | _ => exact structured.elim

theorem readsValues_succ {steps : Nat} (items : ReadsItems steps) (members : ReadsMembers steps) :
    ReadsValues (steps + 1) := by
  intro value text rest spelled closed enough
  by_cases structured : Structured value
  · exact readValue_structured items members spelled structured rest enough
  · cases spelled with
    | null => rfl
    | yes => rfl
    | no => rfl
    | number wellFormed =>
      have read := readNumeral_text wellFormed closed
      obtain ⟨c, later, shape, kind⟩ := text_head wellFormed
      rw [shape, List.cons_append] at read ⊢
      rw [readValue_numeral steps kind, read]
      rfl
    | string quoted =>
      obtain ⟨inside, shape, read⟩ := readString_spells quoted rest
      rw [shape, readValue, read]
      rfl
    | _ => exact absurd trivial structured

theorem readsItems_succ {steps : Nat} (values : ReadsValues steps) (items : ReadsItems steps) :
    ReadsItems (steps + 1) := by
  intro list body rest spelled enough
  cases spelled with
  | last spelled ended =>
    simp only [List.length_cons, List.length_append, List.length_nil] at enough
    simp only [List.append_assoc, List.singleton_append]
    rw [readItems, values spelled (closed_append ended (Or.inr (Or.inl rfl)) _) (by omega)]
    simp only [bind, Option.bind_some]
    rw [skipBlanks_append_cons ended rfl]
    rfl
  | cons spelled ended parted others =>
    simp only [List.length_cons, List.length_append] at enough
    simp only [List.append_assoc, List.cons_append]
    rw [readItems, values spelled (closed_append ended (Or.inl rfl) _) (by omega)]
    simp only [bind, Option.bind_some]
    rw [skipBlanks_append_cons ended rfl]
    simp only
    rw [skipBlanks_opens parted (others.opens.append rest), items rest others (by omega)]
    rfl

theorem readsMembers_succ {steps : Nat} (values : ReadsValues steps)
    (members : ReadsMembers steps) : ReadsMembers (steps + 1) := by
  intro list body rest spelled enough
  cases spelled with
  | last quoted named opened spelled ended =>
    simp only [List.length_cons, List.length_append, List.length_nil] at enough
    simp only [List.append_assoc, List.cons_append, List.nil_append]
    obtain ⟨inside, shape, read⟩ := readString_spells quoted _
    rw [shape, readMembers, read]
    simp only [bind, Option.bind_some]
    rw [skipBlanks_append_cons named rfl]
    simp only
    rw [skipBlanks_opens opened (spelled.opens.append _),
      values spelled (closed_append ended (Or.inr (Or.inr rfl)) _) (by omega)]
    simp only [Option.bind_some]
    rw [skipBlanks_append_cons ended rfl]
    rfl
  | cons quoted named opened spelled ended parted others =>
    simp only [List.length_cons, List.length_append] at enough
    simp only [List.append_assoc, List.cons_append]
    obtain ⟨inside, shape, read⟩ := readString_spells quoted _
    rw [shape, readMembers, read]
    simp only [bind, Option.bind_some]
    rw [skipBlanks_append_cons named rfl]
    simp only
    rw [skipBlanks_opens opened (spelled.opens.append _),
      values spelled (closed_append ended (Or.inl rfl) _) (by omega)]
    simp only [Option.bind_some]
    rw [skipBlanks_append_cons ended rfl]
    simp only
    rw [skipBlanks_opens parted (others.opens.append rest), members rest others (by omega)]
    rfl

/-- **What is spelled is read**, with two steps for every character. -/
theorem read_spells (steps : Nat) :
    ReadsValues steps ∧ ReadsItems steps ∧ ReadsMembers steps := by
  induction steps with
  | zero =>
    refine ⟨?_, ?_, ?_⟩
    · intro value text rest spelled _ enough
      obtain ⟨c, later, rfl, _⟩ := spelled.opens
      simp at enough
    · intro items body rest spelled enough
      obtain ⟨c, later, rfl, _⟩ := spelled.opens
      simp at enough
    · intro members body rest spelled enough
      obtain ⟨c, later, rfl, _⟩ := spelled.opens
      simp at enough
  | succ steps ih =>
    obtain ⟨values, items, members⟩ := ih
    exact ⟨readsValues_succ items members, readsItems_succ values items,
      readsMembers_succ values members⟩

/-- A document that spells a value between blanks is read as that value. -/
theorem parse?_spells {value : Json} {before text after : Text} (leading : Blanks before)
    (spelled : Spells value text) (trailing : Blanks after) :
    parse? (before ++ (text ++ after)) = some value := by
  have closed : Closed after := by
    intro c first
    exact Or.inl (trailing c (List.mem_of_mem_head? first))
  have read := (read_spells (2 * (before ++ (text ++ after)).length + 1)).1 spelled closed
    (by simp only [List.length_append]; omega)
  have ended : skipBlanks after = [] := by
    rw [← List.append_nil after]
    exact skipBlanks_append trailing (by simp)
  unfold parse?
  rw [skipBlanks_opens leading (spelled.opens.append after), read]
  simp only [bind, Option.bind_some, ended]
  rfl

end ExportManifest.Json
