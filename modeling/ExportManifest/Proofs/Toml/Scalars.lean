/-
**Values on one line of a TOML document.**

`Spells node text` lists the values that settings are made of, as they are written: a basic string,
whose characters stand for themselves or are escaped, a boolean, and a natural number in decimal.
What is written so is read back where the line ends behind it.

* `readBasic_char`: **one character of a basic string is read from any of its spellings**;
  `readBasic_content`: so is the string, up to the quote that closes it.
* `spellsString_writeString`: every text has a spelling, whatever characters it holds.
* `readMoment_digits`: digits alone are no date and no time of day, which are tried first.
* `readNumber_ofNat`: a number up to the greatest 64-bit integer is read from its digits.
* `readValue_spells`: a value is read from its spelling.
-/

import ExportManifest.Proofs.Json.Characters
import ExportManifest.Proofs.Manifest.RoundTrip
import ExportManifest.Proofs.Text.Lines
import ExportManifest.Toml.Value

namespace ExportManifest.Toml

open Json (SpellsCode)

/-- The line ends here, or the document does. -/
def LineEnds (rest : Text) : Prop :=
  ∀ c ∈ rest.head?, c = '\n'

theorem lineEnds_nil : LineEnds [] := by
  rintro c ⟨⟩

theorem lineEnds_newline (rest : Text) : LineEnds ('\n' :: rest) := by
  rintro c ⟨⟩
  rfl

/-! ### Strings -/

/-- How a character of a basic string is written: as it stands, where it is no control character
and no mark of the string; behind a backslash, where it is such a mark; or by its number in four
hexadecimal digits. -/
inductive SpellsChar : Char → Text → Prop
  | plain {c : Char} (basic : isBasicChar c = true) : SpellsChar c [c]
  | marked {c : Char} (mark : c = '"' ∨ c = '\\') : SpellsChar c ['\\', c]
  | numbered {c : Char} {text : Text} (escape : SpellsCode c.toNat text) : SpellsChar c text

/-- How the characters of a basic string are written between its quotes. -/
inductive SpellsContent : Text → Text → Prop
  | nil : SpellsContent [] []
  | cons {c : Char} {content front back : Text} (first : SpellsChar c front)
    (later : SpellsContent content back) : SpellsContent (c :: content) (front ++ back)

/-- How a basic string with the given content is written, quotes included. -/
def SpellsString (content text : Text) : Prop :=
  ∃ body, SpellsContent content body ∧ text = '"' :: (body ++ ['"'])

/-- A character is read from its number. -/
theorem scalar?_code {a b c d char : Char}
    (escape : SpellsCode char.toNat ['\\', 'u', a, b, c, d]) :
    scalar? [a, b, c, d] = some char := by
  obtain ⟨_, _, _, _, same, first, second, third, fourth⟩ := escape
  cases same
  have digits : [a, b, c, d].mapM Hexadecimal.value? =
      some [char.toNat / 4096, char.toNat / 256 % 16, char.toNat / 16 % 16, char.toNat % 16] := by
    simp [Json.value?_eq_some_iff.mpr first, Json.value?_eq_some_iff.mpr second,
      Json.value?_eq_some_iff.mpr third, Json.value?_eq_some_iff.mpr fourth]
  have code : [char.toNat / 4096, char.toNat / 256 % 16, char.toNat / 16 % 16,
      char.toNat % 16].foldl (fun code value => code * 16 + value) 0 = char.toNat := by
    simp only [List.foldl_cons, List.foldl_nil]
    omega
  have valid : char.toNat.isValidChar := char.valid
  unfold scalar?
  rw [digits]
  simp only [Option.bind_eq_bind, Option.bind_some, code]
  rw [if_pos valid, Char.ofNat_toNat]
  rfl

/-- **One character of a basic string is read from any of its spellings.** -/
theorem readBasic_char {c : Char} {front : Text} (spelled : SpellsChar c front) (steps : Nat)
    (rest : Text) :
    readBasic (steps + 1) (front ++ rest) = consContent c (readBasic steps rest) := by
  cases spelled with
  | plain basic =>
    have noQuote : c ≠ '"' := by
      rintro rfl
      cases basic
    have noBackslash : c ≠ '\\' := by
      rintro rfl
      cases basic
    rw [List.singleton_append, readBasic]
    · rw [if_pos basic]
    · exact noQuote
    · exact noBackslash
  | marked mark => rcases mark with rfl | rfl <;> rfl
  | numbered escape =>
    obtain ⟨a, b, d, e, rfl, digits⟩ := escape
    have four : ¬ (a :: b :: d :: e :: rest).length < 4 := by simp
    have read : readEscape ('u' :: a :: b :: d :: e :: rest) = some (c, rest) := by
      rw [readEscape, if_neg four]
      show (scalar? [a, b, d, e]).map _ = _
      rw [scalar?_code ⟨a, b, d, e, rfl, digits⟩]
      rfl
    show (readEscape ('u' :: a :: b :: d :: e :: rest)).bind _ = _
    rw [read]
    rfl

theorem SpellsChar.ne_nil {c : Char} {front : Text} (spelled : SpellsChar c front) :
    front ≠ [] := by
  cases spelled with
  | plain basic => exact List.cons_ne_nil _ _
  | marked mark => exact List.cons_ne_nil _ _
  | numbered escape =>
    obtain ⟨_, _, _, _, rfl, _⟩ := escape
    exact List.cons_ne_nil _ _

theorem readBasic_content {content body : Text} (spelled : SpellsContent content body)
    {steps : Nat} (enough : body.length < steps) (rest : Text) :
    readBasic steps (body ++ '"' :: rest) = some (content, rest) := by
  induction spelled generalizing steps with
  | nil =>
    obtain ⟨later, rfl⟩ := Nat.exists_eq_succ_of_ne_zero (Nat.ne_zero_of_lt enough)
    rfl
  | @cons c content front back first _ ih =>
    obtain ⟨later, rfl⟩ := Nat.exists_eq_succ_of_ne_zero (Nat.ne_zero_of_lt enough)
    have taken := List.length_pos_iff.mpr first.ne_nil
    rw [List.length_append] at enough
    rw [List.append_assoc, readBasic_char first, ih (by omega)]
    rfl

/-- No spelling begins with the quote that would close the string. -/
theorem SpellsContent.head? {content body : Text} (spelled : SpellsContent content body) :
    body.head? ≠ some '"' := by
  cases spelled with
  | nil => exact nofun
  | cons first later =>
    cases first with
    | plain basic =>
      intro quote
      cases quote
      cases basic
    | marked mark => exact fun quote => absurd (Option.some.inj quote) (by decide)
    | numbered escape =>
      obtain ⟨_, _, _, _, rfl, _⟩ := escape
      exact fun quote => absurd (Option.some.inj quote) (by decide)

theorem readString_spells {content text rest : Text} (spelled : SpellsString content text)
    (ends : LineEnds rest) : readString (text ++ rest) = some (content, rest) := by
  obtain ⟨body, inside, rfl⟩ := spelled
  have enough : body.length < (body ++ '"' :: rest).length + 1 := by
    rw [List.length_append]
    omega
  have read := readBasic_content inside enough rest
  -- Three quotes at the front would open a string over several lines.
  have single : ∀ later, body ++ '"' :: rest ≠ '"' :: '"' :: later := by
    intro later opens
    cases body with
    | nil =>
      have next : rest.head? = some '"' := by
        rw [(List.cons.inj opens).2]
        rfl
      exact absurd (ends '"' next) (by decide)
    | cons c others =>
      obtain rfl : c = '"' := (List.cons.inj opens).1
      exact inside.head? rfl
  rw [List.cons_append, List.append_assoc, List.singleton_append, readString]
  · exact read
  · exact fun later opens => single later (List.cons.inj opens).2
  · exact fun later opens => absurd (List.cons.inj opens).1 (by decide)

/-! ### Writing strings -/

/-- Whether a character is a control character. -/
def isControl (c : Char) : Bool :=
  c.toNat < 0x20 || (0x7f ≤ c.toNat && c.toNat < 0xa0)

/-- A character as it stands in a basic string: a mark of the string takes a backslash, and a
control character is written by its number. -/
def writeChar (c : Char) : Text :=
  if c = '"' ∨ c = '\\' then ['\\', c]
  else if isControl c then
    ['\\', 'u', Nat.digitChar (c.toNat / 4096), Nat.digitChar (c.toNat / 256 % 16),
      Nat.digitChar (c.toNat / 16 % 16), Nat.digitChar (c.toNat % 16)]
  else [c]

/-- A text as a basic string. -/
def writeString (content : Text) : Text :=
  '"' :: (content.flatMap writeChar ++ ['"'])

theorem toNat_lt_of_isControl {c : Char} (control : isControl c = true) : c.toNat < 0xa0 := by
  simp only [isControl, Bool.or_eq_true, Bool.and_eq_true, decide_eq_true_eq] at control
  omega

theorem spellsChar_writeChar (c : Char) : SpellsChar c (writeChar c) := by
  unfold writeChar
  split
  · rename_i mark
    exact .marked mark
  · rename_i noMark
    split
    · rename_i control
      have small := toNat_lt_of_isControl control
      exact .numbered ⟨_, _, _, _, rfl, ⟨by omega, Or.inl rfl⟩, ⟨by omega, Or.inl rfl⟩,
        ⟨by omega, Or.inl rfl⟩, ⟨by omega, Or.inl rfl⟩⟩
    · rename_i noControl
      refine .plain ?_
      simp only [isControl, Bool.or_eq_true, Bool.and_eq_true, decide_eq_true_eq, not_or,
        not_and, not_lt] at noControl
      simp only [not_or] at noMark
      simp only [isBasicChar, isVisible, Bool.and_eq_true, Bool.or_eq_true, bne_iff_ne,
        decide_eq_true_eq]
      exact ⟨⟨Or.inr ⟨by omega, by omega⟩, noMark.1⟩, noMark.2⟩

/-- **Every text has a spelling as a basic string.** -/
theorem spellsString_writeString (content : Text) :
    SpellsString content (writeString content) := by
  refine ⟨_, ?_, rfl⟩
  induction content with
  | nil => exact .nil
  | cons c rest ih =>
    rw [List.flatMap_cons]
    exact .cons (spellsChar_writeChar c) ih

theorem any_isControl_writeChar (c : Char) : (writeChar c).any isControl = false := by
  have digits : ∀ n < 16, isControl (Nat.digitChar n) = false := by decide
  unfold writeChar
  split
  · rename_i mark
    rcases mark with rfl | rfl <;> rfl
  · split
    · rename_i control
      have small := toNat_lt_of_isControl control
      simp only [List.any_cons, List.any_nil, Bool.or_false]
      rw [digits _ (by omega), digits _ (by omega), digits _ (by omega), digits _ (by omega)]
      rfl
    · rename_i visible
      rw [List.any_cons, Bool.eq_false_iff.mpr visible]
      rfl

/-- What is written holds no control character, so it stands on one line. -/
theorem any_isControl_writeString (content : Text) :
    (writeString content).any isControl = false := by
  have inside : (content.flatMap writeChar).any isControl = false := by
    rw [List.any_flatMap, List.any_eq_false]
    intro c _
    rw [any_isControl_writeChar]
    exact Bool.false_ne_true
  rw [writeString, List.any_cons, List.any_append, inside]
  rfl

/-! ### Numbers -/

section Digits

variable {digits rest : Text}

/-- A number of a fixed count of digits leaves digits and the end of the line. -/
theorem readFixed_digits (run : ∀ c ∈ digits, c.isDigit = true) (ends : LineEnds rest)
    {count low high value : Nat} {later : Text}
    (read : readFixed count low high (digits ++ rest) = some (value, later)) :
    ∃ others, (∀ c ∈ others, c.isDigit = true) ∧ later = others ++ rest := by
  unfold readFixed at read
  simp only at read
  split at read
  · rename_i taken
    simp only [Bool.and_eq_true, decide_eq_true_eq, List.all_eq_true] at taken
    obtain ⟨whole, allDigits⟩ := taken
    have within : count ≤ digits.length := by
      by_contra beyond
      rw [List.take_append] at whole allDigits
      obtain ⟨more, count_eq⟩ : ∃ more, count - digits.length = more + 1 :=
        Nat.exists_eq_add_one_of_ne_zero (by omega)
      rw [count_eq] at whole allDigits
      cases rest with
      | nil => simp at whole; omega
      | cons c others =>
        have digit := allDigits c (by simp)
        rw [ends c rfl] at digit
        cases digit
    split at read
    · cases read
      exact ⟨digits.drop count, fun c member => run c (List.mem_of_mem_drop member),
        List.drop_append_of_le_length within⟩
    · cases read
  · cases read

/-- Digits up to the end of the line hold no mark of a date or a time. -/
theorem readMark_digits (mark : Char) (noDigit : mark.isDigit = false) (noNewline : mark ≠ '\n')
    (run : ∀ c ∈ digits, c.isDigit = true) (ends : LineEnds rest) :
    readMark mark (digits ++ rest) = none := by
  cases digits with
  | nil =>
    cases rest with
    | nil => rfl
    | cons c later => exact if_neg fun same => noNewline (same.symm.trans (ends c rfl))
  | cons c later =>
    refine if_neg fun same => ?_
    have digit := run c List.mem_cons_self
    rw [same, noDigit] at digit
    cases digit

/-- **Digits alone are no moment.** -/
theorem readMoment_digits (run : ∀ c ∈ digits, c.isDigit = true) (ends : LineEnds rest) :
    readMoment (digits ++ rest) = none := by
  have noDate : readDate (digits ++ rest) = none := by
    unfold readDate
    cases year : readFixed 4 0 9999 (digits ++ rest) with
    | none => rfl
    | some reading =>
      obtain ⟨others, othersRun, behind⟩ := readFixed_digits run ends year
      have dash := readMark_digits '-' rfl (by decide) othersRun ends
      simp only [Option.bind_eq_bind, Option.bind_some, behind, dash, Option.bind_none]
  have noTime : readTime (digits ++ rest) = none := by
    unfold readTime
    cases hour : readFixed 2 0 23 (digits ++ rest) with
    | none => rfl
    | some reading =>
      obtain ⟨others, othersRun, behind⟩ := readFixed_digits run ends hour
      have colon := readMark_digits ':' rfl (by decide) othersRun ends
      simp only [Option.bind_eq_bind, Option.bind_some, behind, colon, Option.bind_none]
  unfold readMoment
  rw [noDate]
  exact noTime

theorem readMoreDigits_digits (run : ∀ c ∈ digits, c.isDigit = true) (ends : LineEnds rest) :
    readMoreDigits Char.isDigit (digits ++ rest) = some (digits, rest) := by
  induction digits with
  | nil =>
    cases rest with
    | nil => rfl
    | cons c later =>
      obtain rfl := ends c rfl
      rfl
  | cons c later ih =>
    have digit := run c List.mem_cons_self
    have noUnderscore : c ≠ '_' := by
      rintro rfl
      cases digit
    have others := ih fun d member => run d (List.mem_cons_of_mem _ member)
    rw [List.cons_append, readMoreDigits]
    · rw [if_pos digit, others]
      rfl
    · exact fun _ _ same => absurd same noUnderscore

/-- The value of digits does not depend on which of the two readers adds them up. -/
theorem digitsValue_eq (run : ∀ c ∈ digits, c.isDigit = true) :
    digitsValue 10 digits = Decimal.value digits := by
  have values : ∀ n < 58, (Char.ofNat n).isDigit = true →
      (Hexadecimal.value? (Char.ofNat n)).getD 0 = (Char.ofNat n).toNat - '0'.toNat := by decide
  have digitValue : ∀ c : Char, c.isDigit = true →
      (Hexadecimal.value? c).getD 0 = c.toNat - '0'.toNat := by
    intro c digit
    have small := (Char.isDigit_iff_toNat.mp digit).2
    have found := values c.toNat (Nat.lt_succ_of_le small)
    rw [Char.ofNat_toNat] at found
    exact found digit
  have added : ∀ start, digits.foldl
      (fun value c => value * 10 + (Hexadecimal.value? c).getD 0) start =
        Nat.ofDigitChars 10 digits start := by
    induction digits with
    | nil => exact fun _ => rfl
    | cons c later ih =>
      intro start
      rw [List.foldl_cons, Nat.ofDigitChars_cons, digitValue c (run c List.mem_cons_self),
        Nat.mul_comm start 10]
      exact ih (fun d member => run d (List.mem_cons_of_mem _ member)) _
  exact added 0

end Digits

theorem ofNat_eq_cons (n : Nat) :
    ∃ c later, Decimal.ofNat n = c :: later ∧ c.isDigit = true := by
  obtain ⟨nonempty, run⟩ := Decimal.digits_ofNat n
  obtain ⟨c, later, shape⟩ := List.exists_cons_of_ne_nil nonempty
  exact ⟨c, later, shape, run c (by rw [shape]; exact List.mem_cons_self)⟩

/-- The digits of a number begin with zero only if they are one zero. -/
theorem ofNat_shape (n : Nat) :
    Decimal.ofNat n = ['0'] ∨
      ∃ c later, Decimal.ofNat n = c :: later ∧ c.isDigit = true ∧ c ≠ '0' := by
  cases n with
  | zero => exact Or.inl (Nat.toDigits_zero 10)
  | succ n =>
    obtain ⟨c, later, shape, digit⟩ := ofNat_eq_cons (n + 1)
    refine Or.inr ⟨c, later, shape, digit, ?_⟩
    rintro rfl
    exact Json.toDigits_head (n + 1) (Nat.succ_pos n) (by rw [← Decimal.ofNat, shape]; rfl)

theorem readWhole_ofNat (n : Nat) {rest : Text} (ends : LineEnds rest) :
    readWhole (Decimal.ofNat n ++ rest) = some (Decimal.ofNat n, rest) := by
  have run := (Decimal.digits_ofNat n).2
  rcases ofNat_shape n with zero | ⟨c, later, shape, digit, noZero⟩
  · rw [zero]
    rfl
  · rw [shape] at run ⊢
    have others := readMoreDigits_digits (fun d member => run d (List.mem_cons_of_mem _ member))
      ends
    rw [List.cons_append, readWhole]
    · rw [readDigits, if_pos digit, others]
      rfl
    · exact fun _ same => absurd (List.cons.inj same).1 noZero

theorem readFraction_lineEnds {rest : Text} (ends : LineEnds rest) :
    readFraction rest = some (none, rest) := by
  cases rest with
  | nil => rfl
  | cons c later =>
    obtain rfl := ends c rfl
    rfl

theorem readExponent_lineEnds {rest : Text} (ends : LineEnds rest) :
    readExponent rest = some (none, rest) := by
  cases rest with
  | nil => rfl
  | cons c later =>
    obtain rfl := ends c rfl
    rfl

/-- What begins with a digit other than zero is a decimal number without a sign. -/
theorem readNumber_digit {c : Char} (digit : c.isDigit = true) (noZero : c ≠ '0') (later : Text) :
    readNumber (c :: later) = readDecimal false (c :: later) := by
  have other : ∀ mark : Char, mark.isDigit = false → c ≠ mark := by
    rintro mark noDigit rfl
    rw [digit] at noDigit
    cases noDigit
  have unsigned : readSign (c :: later) = (false, c :: later) := by
    rw [readSign]
    · exact fun _ same => other '+' rfl (List.cons.inj same).1
    · exact fun _ same => other '-' rfl (List.cons.inj same).1
  rw [readNumber]
  · rw [unsigned]
    split
    · rename_i same
      exact absurd (List.cons.inj (Prod.mk.inj same).2).1 (other 'i' rfl)
    · rename_i same
      exact absurd (List.cons.inj (Prod.mk.inj same).2).1 (other 'n' rfl)
    · rename_i same
      obtain ⟨rfl, rfl⟩ := Prod.mk.inj same
      rfl
  all_goals exact fun _ same => absurd (List.cons.inj same).1 noZero

/-- **A natural number is read from its digits**, as long as it fits in 64 bits. -/
theorem readNumber_ofNat {n : Nat} (fits : (n : Int) ≤ Decimal.greatestInt64) {rest : Text}
    (ends : LineEnds rest) :
    readNumber (Decimal.ofNat n ++ rest) = some (.integer n, rest) := by
  have value : digitsValue 10 (Decimal.ofNat n) = n := by
    rw [digitsValue_eq (Decimal.digits_ofNat n).2, Decimal.value_ofNat]
  have node : integerNode? (n : Int) = some (.integer n) := by
    have inRange : Decimal.fitsInt64 n = true := by
      rw [Decimal.fitsInt64, Bool.and_eq_true, decide_eq_true_eq, decide_eq_true_eq]
      refine ⟨?_, fits⟩
      unfold Decimal.leastInt64
      omega
    rw [integerNode?, if_pos inRange]
  have decimal : readDecimal false (Decimal.ofNat n ++ rest) = some (.integer n, rest) := by
    unfold readDecimal
    simp only [readWhole_ofNat n ends, readFraction_lineEnds ends, readExponent_lineEnds ends,
      Option.bind_eq_bind, Option.bind_some, Option.isNone_none, Bool.and_self, if_true, value]
    rw [if_neg Bool.false_ne_true, node]
    rfl
  rcases ofNat_shape n with zero | ⟨c, later, shape, digit, noZero⟩
  · rw [zero] at decimal ⊢
    cases rest with
    | nil => exact decimal
    | cons c later =>
      obtain rfl := ends c rfl
      exact decimal
  · rw [shape, List.cons_append] at decimal ⊢
    exact (readNumber_digit digit noZero _).trans decimal

/-! ### Values -/

/-- The word of a boolean. -/
def booleanWord (value : Bool) : Text :=
  if value then "true".toList else "false".toList

/-- How a value of a setting is written. -/
inductive Spells : Node → Text → Prop
  | string {content text : Text} (spelled : SpellsString content text) :
    Spells (.string content) text
  | boolean (value : Bool) : Spells (.boolean value) (booleanWord value)
  | natural {n : Nat} (fits : (n : Int) ≤ Decimal.greatestInt64) :
    Spells (.integer n) (Decimal.ofNat n)

/-- A value does not begin with a gap. -/
theorem Spells.eq_cons {node : Node} {text : Text} (spelled : Spells node text) :
    ∃ c later, text = c :: later ∧ Text.isGap c = false := by
  cases spelled with
  | string spelled =>
    obtain ⟨body, _, rfl⟩ := spelled
    exact ⟨'"', _, rfl, rfl⟩
  | boolean value => cases value <;> exact ⟨_, _, rfl, rfl⟩
  | @natural n fits =>
    obtain ⟨c, later, shape, digit⟩ := ofNat_eq_cons n
    refine ⟨c, later, shape, Bool.eq_false_iff.mpr fun gap => ?_⟩
    rw [Text.isGap, Bool.or_eq_true, beq_iff_eq, beq_iff_eq] at gap
    rcases gap with rfl | rfl <;> cases digit

theorem readBoolean_word (word : String) (value : Bool) (rest : Text) :
    readBoolean word value (word.toList ++ rest) = some (.boolean value, rest) := by
  have begins : word.toList.isPrefixOf? (word.toList ++ rest) = some rest :=
    List.isPrefixOf?_eq_some_iff_append_eq.mpr rfl
  rw [readBoolean, begins]
  rfl

/-- **A value is read from its spelling**, up to the end of the line. -/
theorem readValue_spells {node : Node} {text rest : Text} (spelled : Spells node text)
    (ends : LineEnds rest) (steps depth : Nat) :
    readValue (steps + 1) depth (text ++ rest) = some (node, rest) := by
  cases spelled with
  | string spelled =>
    have read := readString_spells spelled ends
    obtain ⟨body, _, rfl⟩ := spelled
    rw [List.cons_append] at read ⊢
    rw [readValue, read]
    rfl
  | boolean value =>
    cases value with
    | true => exact readBoolean_word "true" true rest
    | false => exact readBoolean_word "false" false rest
  | @natural n fits =>
    have number : readMomentOrNumber (Decimal.ofNat n ++ rest) = some (.integer n, rest) := by
      rw [readMomentOrNumber, readMoment_digits (Decimal.digits_ofNat n).2 ends]
      exact readNumber_ofNat fits ends
    obtain ⟨c, later, shape, digit⟩ := ofNat_eq_cons n
    rw [shape, List.cons_append] at number ⊢
    rw [readValue]
    · exact number
    -- Each of the other kinds of values begins with a character that is no digit.
    all_goals
      intro _ same
      obtain rfl := (List.cons.inj same).1
      cases digit

end ExportManifest.Toml
