/-
**How the characters of a string are written.**

`SpellsChar` lists the ways to write one character: as it stands, unless it is a control character,
a quote or a backslash; as one of eight short escapes; by its number in four hexadecimal digits of
either case; and, past U+FFFF, by the numbers of a surrogate pair. A string is written character by
character, and each of them may be written in any of its ways.

* `hexQuad?_eq_some_iff`: four digits are read as a number if and only if they write it.
* `spellsString_some_iff`: **the strings of a content are its characters, one after another, in any
  of their ways**. Reading joins the numbers of a pair and refuses a half that stands alone.
-/

import ExportManifest.Proofs.Json.Spelling

namespace ExportManifest.Json

/-! ### The ways to write a character -/

/-- The character is the digit of a number below sixteen, in either case. -/
def HexDigit (value : Nat) (c : Char) : Prop :=
  value < 16 ∧ (c = Nat.digitChar value ∨ c = (Nat.digitChar value).toUpper)

/-- How a number is escaped: by four hexadecimal digits, the highest first. -/
def SpellsCode (unit : Nat) (text : Text) : Prop :=
  ∃ a b c d, text = ['\\', 'u', a, b, c, d] ∧ HexDigit (unit / 4096) a ∧
    HexDigit (unit / 256 % 16) b ∧ HexDigit (unit / 16 % 16) c ∧ HexDigit (unit % 16) d

/-- The letters of the short escapes, and the characters they stand for. -/
def shortEscapes : List (Char × Char) :=
  [('"', '"'), ('\\', '\\'), ('/', '/'), ('b', '\x08'), ('f', '\x0c'), ('n', '\n'), ('r', '\r'),
    ('t', '\t')]

/-- How a character of a string is written. -/
inductive SpellsChar : Char → Text → Prop
  | plain {c : Char} (visible : 0x20 ≤ c.toNat) (noQuote : c ≠ '"') (noBackslash : c ≠ '\\') :
    SpellsChar c [c]
  | short {letter c : Char} (escape : (letter, c) ∈ shortEscapes) : SpellsChar c ['\\', letter]
  | numbered {c : Char} {text : Text} (escape : SpellsCode c.toNat text) : SpellsChar c text
  | paired {c : Char} {high low : Text} (far : 0x10000 ≤ c.toNat)
    (first : SpellsCode (0xd800 + (c.toNat - 0x10000) / 0x400) high)
    (second : SpellsCode (0xdc00 + (c.toNat - 0x10000) % 0x400) low) :
    SpellsChar c (high ++ low)

/-- How the characters of a string are written between its quotes. -/
inductive SpellsText : Text → Text → Prop
  | nil : SpellsText [] []
  | cons {c : Char} {content front back : Text} (first : SpellsChar c front)
    (later : SpellsText content back) : SpellsText (c :: content) (front ++ back)

/-! ### Digits and escapes are read as they are written -/

/-- Only the digits and six letters, up to `f`, have a value. -/
theorem toNat_lt_of_value? {value : Nat} {c : Char} (read : Hexadecimal.value? c = some value) :
    c.toNat < 103 := by
  unfold Hexadecimal.value? at read
  simp only [Char.le_def, UInt32.le_iff_toNat_le] at read
  split at read
  · rename_i digit
    exact Nat.lt_of_le_of_lt digit.2 (by decide)
  · split at read
    · rename_i letter
      exact Nat.lt_of_le_of_lt letter.2 (by decide)
    · split at read
      · rename_i letter
        exact Nat.lt_of_le_of_lt letter.2 (by decide)
      · cases read

theorem value?_eq_some_iff {value : Nat} {c : Char} :
    Hexadecimal.value? c = some value ↔ HexDigit value c := by
  constructor
  · intro read
    have table : ∀ n < 103, ∀ value ∈ Hexadecimal.value? (Char.ofNat n), value < 16 ∧
        (Char.ofNat n = Nat.digitChar value ∨ Char.ofNat n = (Nat.digitChar value).toUpper) := by
      decide
    have found := table c.toNat (toNat_lt_of_value? read) value
    rw [Char.ofNat_toNat] at found
    exact found read
  · rintro ⟨small, written⟩
    have table : ∀ value < 16, Hexadecimal.value? (Nat.digitChar value) = some value ∧
        Hexadecimal.value? (Nat.digitChar value).toUpper = some value := by
      decide
    rcases written with rfl | rfl
    · exact (table value small).1
    · exact (table value small).2

/-- **Four digits are read as the number that they write.** -/
theorem hexQuad?_eq_some_iff {a b c d : Char} {unit : Nat} :
    hexQuad? a b c d = some unit ↔ SpellsCode unit ['\\', 'u', a, b, c, d] := by
  constructor
  · intro read
    simp only [hexQuad?, bind, Option.bind_eq_some_iff, value?_eq_some_iff] at read
    obtain ⟨p, first, q, second, r, third, s, fourth, same⟩ := read
    have digits := And.intro (And.intro first.1 second.1) (And.intro third.1 fourth.1)
    cases same
    refine ⟨a, b, c, d, rfl, ?_, ?_, ?_, ?_⟩
    · rwa [show (((p * 16 + q) * 16 + r) * 16 + s) / 4096 = p by omega]
    · rwa [show (((p * 16 + q) * 16 + r) * 16 + s) / 256 % 16 = q by omega]
    · rwa [show (((p * 16 + q) * 16 + r) * 16 + s) / 16 % 16 = r by omega]
    · rwa [show (((p * 16 + q) * 16 + r) * 16 + s) % 16 = s by omega]
  · rintro ⟨_, _, _, _, same, first, second, third, fourth⟩
    cases same
    rw [hexQuad?, value?_eq_some_iff.mpr first, value?_eq_some_iff.mpr second,
      value?_eq_some_iff.mpr third, value?_eq_some_iff.mpr fourth]
    show some _ = some _
    congr 1
    omega

theorem shortEscape?_eq_some_iff {letter c : Char} :
    shortEscape? letter = some c ↔ (letter, c) ∈ shortEscapes := by
  constructor
  · intro escape
    unfold shortEscape? at escape
    split at escape <;> first | (cases escape; decide) | cases escape
  · intro listed
    have table : ∀ entry ∈ shortEscapes, shortEscape? entry.1 = some entry.2 := by decide
    exact table (letter, c) listed

/-- A number in four digits has at most sixteen bits. -/
theorem SpellsCode.lt {unit : Nat} {text : Text} (escape : SpellsCode unit text) :
    unit < 0x10000 := by
  obtain ⟨_, _, _, _, _, ⟨small, _⟩, _⟩ := escape
  omega

/-- An escape by number is one unit of a string. -/
theorem spellsUnit_code_iff {unit : Nat} {text : Text} :
    SpellsUnit (.code unit) text ↔ SpellsCode unit text := by
  constructor
  · intro spelled
    cases spelled with
    | numbered quad => exact hexQuad?_eq_some_iff.mp quad
  · intro escape
    obtain ⟨a, b, c, d, rfl, digits⟩ := escape
    exact .numbered (hexQuad?_eq_some_iff.mpr ⟨a, b, c, d, rfl, digits⟩)

/-! ### Units and characters -/

theorem toNat_ofNat {code : Nat} (valid : code < 0xd800 ∨ 0xdfff < code ∧ code < 0x110000) :
    (Char.ofNat code).toNat = code := by
  rw [Char.ofNat, dif_pos (show code.isValidChar from valid)]
  rfl

/-- A character is no surrogate. -/
theorem toNat_valid (c : Char) : c.toNat < 0xd800 ∨ 0xdfff < c.toNat ∧ c.toNat < 0x110000 :=
  c.valid

theorem SpellsUnits.append {units others : List StringUnit} {front back : Text}
    (spelled : SpellsUnits units front) (later : SpellsUnits others back) :
    SpellsUnits (units ++ others) (front ++ back) := by
  induction spelled with
  | nil => exact later
  | cons first _ ih =>
    rw [List.append_assoc]
    exact .cons first ih

theorem SpellsUnit.single {unit : StringUnit} {text : Text} (spelled : SpellsUnit unit text) :
    SpellsUnits [unit] text := by
  have derived := SpellsUnits.cons spelled .nil
  rwa [List.append_nil] at derived

/-- **Each way to write a character is one unit or two, which are read as the character.** -/
theorem SpellsChar.units {c : Char} {text : Text} (spelled : SpellsChar c text) :
    ∃ units, SpellsUnits units text ∧
      ∀ rest, spelled? (units ++ rest) = (spelled? rest).map (c :: ·) := by
  cases spelled with
  | plain visible noQuote noBackslash =>
    exact ⟨[.char c], (SpellsUnit.plain visible noQuote noBackslash).single, fun _ => rfl⟩
  | short escape =>
    exact ⟨[.char c], (SpellsUnit.short (shortEscape?_eq_some_iff.mpr escape)).single,
      fun _ => rfl⟩
  | numbered escape =>
    refine ⟨[.code c.toNat], (spellsUnit_code_iff.mpr escape).single, fun rest => ?_⟩
    have valid := toNat_valid c
    rw [List.singleton_append, spelled?_code (by omega), Char.ofNat_toNat]
  | @paired c high low far first second =>
    have valid := toNat_valid c
    refine ⟨[.code _, .code _], (spellsUnit_code_iff.mpr first).single.append
      (spellsUnit_code_iff.mpr second).single, fun rest => ?_⟩
    simp only [List.cons_append, List.nil_append]
    rw [spelled?, if_pos (by omega), if_pos (by omega)]
    have joined : 0x10000 + (0xd800 + (c.toNat - 0x10000) / 0x400 - 0xd800) * 0x400 +
        (0xdc00 + (c.toNat - 0x10000) % 0x400 - 0xdc00) = c.toNat := by
      omega
    rw [joined, Char.ofNat_toNat]

theorem SpellsText.units {content text : Text} (spelled : SpellsText content text) :
    ∃ units, SpellsUnits units text ∧ spelled? units = some content := by
  induction spelled with
  | nil => exact ⟨[], .nil, rfl⟩
  | cons first _ ih =>
    obtain ⟨front, writes, joins⟩ := first.units
    obtain ⟨units, later, read⟩ := ih
    refine ⟨front ++ units, writes.append later, ?_⟩
    rw [joins, read]
    rfl

/-- A unit that is a character is plain or a short escape. -/
theorem spellsChar_of_unit {c : Char} {text : Text} (spelled : SpellsUnit (.char c) text) :
    SpellsChar c text := by
  cases spelled with
  | plain visible noQuote noBackslash => exact .plain visible noQuote noBackslash
  | short escape => exact .short (shortEscape?_eq_some_iff.mp escape)

/-- A number that is no surrogate escapes its character. -/
theorem spellsChar_of_code {unit : Nat} {text : Text} (spelled : SpellsUnit (.code unit) text)
    (noHalf : ¬ (0xd800 ≤ unit ∧ unit < 0xe000)) : SpellsChar (Char.ofNat unit) text := by
  have escape := spellsUnit_code_iff.mp spelled
  have small := escape.lt
  refine .numbered ?_
  rwa [toNat_ofNat (by omega)]

/-- The numbers of a pair escape the character that they are joined to. -/
theorem spellsChar_of_pair {high low : Nat} {front back : Text}
    (first : SpellsUnit (.code high) front) (second : SpellsUnit (.code low) back)
    (isHigh : 0xd800 ≤ high ∧ high < 0xdc00) (isLow : 0xdc00 ≤ low ∧ low < 0xe000) :
    SpellsChar (Char.ofNat (0x10000 + (high - 0xd800) * 0x400 + (low - 0xdc00)))
      (front ++ back) := by
  have joined : (Char.ofNat (0x10000 + (high - 0xd800) * 0x400 + (low - 0xdc00))).toNat =
      0x10000 + (high - 0xd800) * 0x400 + (low - 0xdc00) := toNat_ofNat (by omega)
  refine .paired (by omega) ?_ ?_
  · rw [joined, show 0xd800 + (0x10000 + (high - 0xd800) * 0x400 + (low - 0xdc00) - 0x10000) / 0x400
      = high by omega]
    exact spellsUnit_code_iff.mp first
  · rw [joined, show 0xdc00 + (0x10000 + (high - 0xd800) * 0x400 + (low - 0xdc00) - 0x10000) % 0x400
      = low by omega]
    exact spellsUnit_code_iff.mp second

/-- **Units that are read as a content write its characters**, by the cases of reading. -/
theorem spellsText_of_units {units : List StringUnit} {content body : Text}
    (spelled : SpellsUnits units body) (read : spelled? units = some content) :
    SpellsText content body := by
  induction units using spelled?.induct generalizing content body with
  | case1 =>
    cases spelled
    cases read
    exact .nil
  | case2 c rest ih =>
    obtain _ | ⟨first, later⟩ := spelled
    obtain ⟨others, readsOthers, rfl⟩ := Option.map_eq_some_iff.mp read
    exact .cons (spellsChar_of_unit first) (ih later readsOthers)
  | case3 high low rest isHigh isLow ih =>
    obtain _ | ⟨first, _ | ⟨second, later⟩⟩ := spelled
    rw [spelled?, if_pos isHigh, if_pos isLow] at read
    obtain ⟨others, readsOthers, rfl⟩ := Option.map_eq_some_iff.mp read
    rw [← List.append_assoc]
    exact .cons (spellsChar_of_pair first second isHigh isLow) (ih later readsOthers)
  | case4 high low rest isHigh noLow =>
    rw [spelled?, if_pos isHigh, if_neg noLow] at read
    cases read
  | case5 high low rest noHigh isLow =>
    rw [spelled?, if_neg noHigh, if_pos isLow] at read
    cases read
  | case6 high low rest noHigh noLow ih =>
    obtain _ | ⟨first, later⟩ := spelled
    rw [spelled?, if_neg noHigh, if_neg noLow] at read
    obtain ⟨others, readsOthers, rfl⟩ := Option.map_eq_some_iff.mp read
    exact .cons (spellsChar_of_code first (by omega)) (ih later readsOthers)
  | case7 unit rest lone isHalf =>
    rw [spelled?, if_pos isHalf] at read
    · cases read
    · exact lone
  | case8 unit rest lone noHalf ih =>
    obtain _ | ⟨first, later⟩ := spelled
    rw [spelled?_code noHalf] at read
    obtain ⟨others, readsOthers, rfl⟩ := Option.map_eq_some_iff.mp read
    exact .cons (spellsChar_of_code first noHalf) (ih later readsOthers)

/-- **The strings of a content are its characters in any of their ways**, between quotes. -/
theorem spellsString_some_iff {content text : Text} :
    SpellsString (some content) text ↔
      ∃ body, SpellsText content body ∧ text = '"' :: (body ++ ['"']) := by
  constructor
  · rintro ⟨units, body, spelled, read, rfl⟩
    exact ⟨body, spellsText_of_units spelled read.symm, rfl⟩
  · rintro ⟨body, spelled, rfl⟩
    obtain ⟨units, writes, read⟩ := spelled.units
    exact ⟨units, body, writes, read.symm, rfl⟩

end ExportManifest.Json
