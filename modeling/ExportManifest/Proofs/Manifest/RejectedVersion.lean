/-
**A rejected version can be read off its diagnostic.**

The diagnostic quotes the version as it was given. `Text.unquote?` reads a quoted text from the left
and stops at the quote that closes it: a backslash begins an escape, so neither a quote nor a text
that looks like an escape can be mistaken. It does not ask which characters are hidden, and reads
back what is written for any choice of them.

* `quoteChar_cases`: the three ways to quote a character.
* `readOn_toDigits`: the digits of a number are read as that number, however many there are.
* `readOn_quoteChar`, `unquote?_quoteWith`: **a quoted text is read back**, whatever follows it.
* `unbroken_quoteWith`: it has no character that ends a line, if these are among the hidden ones.
* `rejected_version_legible`: the diagnostic is one line, the version can be read off it, and no two
  versions have the same one.
-/

import ExportManifest.Proofs.Json.Characters
import ExportManifest.Proofs.Manifest.SchemaVersion

namespace ExportManifest

namespace Text

/-! ### Reading a quoted text -/

/-- Where the reading of a quoted text stands. -/
inductive Place
  /-- Between two characters. -/
  | between
  /-- Behind a backslash. -/
  | escaped
  /-- Behind `\u`. -/
  | numbered
  /-- Behind the brace of a number and those of its digits that are read. -/
  | digits (value? : Option Nat)

/-- The character behind a backslash, and the one it stands for. -/
def quotedEscape? : Char → Option Char
  | '"' => some '"'
  | '\\' => some '\\'
  | '0' => some '\x00'
  | 't' => some '\t'
  | 'n' => some '\n'
  | 'r' => some '\r'
  | _ => none

/-- The character of a code point. -/
def ofCode? (value : Nat) : Option Char :=
  if value.isValidChar then some (Char.ofNat value) else none

/-- Reads a quoted text on from a place: its content up to the closing quote, and what follows. -/
def readOn : Place → Text → Option (Text × Text)
  | _, [] => none
  | .between, c :: rest =>
    if c = '"' then some ([], rest)
    else if c = '\\' then readOn .escaped rest
    else (readOn .between rest).map (Prod.map (c :: ·) id)
  | .escaped, c :: rest =>
    if c = 'u' then readOn .numbered rest
    else
      (quotedEscape? c).bind fun meant => (readOn .between rest).map (Prod.map (meant :: ·) id)
  | .numbered, c :: rest =>
    if c = '\x7b' then readOn (.digits none) rest else none
  | .digits value?, c :: rest =>
    if c = '\x7d' then
      (value?.bind ofCode?).bind fun meant => (readOn .between rest).map (Prod.map (meant :: ·) id)
    else
      (Hexadecimal.value? c).bind fun digit =>
        readOn (.digits (some (value?.getD 0 * 16 + digit))) rest

/-- Reads a quoted text at the start of a text: its content, and what follows. -/
def unquote? : Text → Option (Text × Text)
  | [] => none
  | c :: rest => if c = '"' then readOn .between rest else none

/-! ### The ways to quote a character -/

/-- The characters that stand behind a backslash for one character. -/
def quoteMarks : List Char :=
  ['"', '\\', '0', 't', 'n', 'r']

/-- **A character is quoted in one of three ways**: by a backslash and a mark, by its number, or as
it is. The last is left to characters that are neither marks of the quotation nor hidden. -/
theorem quoteChar_cases (hidden : Char → Bool) (c : Char) :
    (∃ mark ∈ quoteMarks, quotedEscape? mark = some c ∧ quoteChar hidden c = ['\\', mark]) ∨
      quoteChar hidden c = ['\\', 'u', '\x7b'] ++ Nat.toDigits 16 c.toNat ++ ['\x7d'] ∨
      c ≠ '"' ∧ c ≠ '\\' ∧ hidden c = false ∧ quoteChar hidden c = [c] := by
  by_cases escaped : c ∈ ['"', '\\', '\x00', '\t', '\n', '\r']
  · left
    simp only [List.mem_cons, List.not_mem_nil, or_false] at escaped
    rcases escaped with rfl | rfl | rfl | rfl | rfl | rfl
    · exact ⟨'"', by decide, rfl, rfl⟩
    · exact ⟨'\\', by decide, rfl, rfl⟩
    · exact ⟨'0', by decide, rfl, rfl⟩
    · exact ⟨'t', by decide, rfl, rfl⟩
    · exact ⟨'n', by decide, rfl, rfl⟩
    · exact ⟨'r', by decide, rfl, rfl⟩
  · right
    simp only [List.mem_cons, List.not_mem_nil, or_false, not_or] at escaped
    obtain ⟨noQuote, noBackslash, noNull, noTab, noNewline, noReturn⟩ := escaped
    unfold quoteChar
    rw [if_neg noQuote, if_neg noBackslash, if_neg noNull, if_neg noTab, if_neg noNewline,
      if_neg noReturn]
    by_cases isHidden : hidden c = true
    · exact Or.inl (if_pos isHidden)
    · exact Or.inr ⟨noQuote, noBackslash, Bool.eq_false_iff.mpr isHidden, if_neg isHidden⟩

/-! ### What is quoted is read back -/

theorem value?_digitChar {digit : Nat} (small : digit < 16) :
    Hexadecimal.value? (Nat.digitChar digit) = some digit :=
  Json.value?_eq_some_iff.mpr ⟨small, Or.inl rfl⟩

theorem readOn_digitChar {digit : Nat} (small : digit < 16) (value? : Option Nat) (rest : Text) :
    readOn (.digits value?) (Nat.digitChar digit :: rest) =
      readOn (.digits (some (value?.getD 0 * 16 + digit))) rest := by
  have noBrace : ∀ digit < 16, Nat.digitChar digit ≠ '\x7d' := by decide
  rw [readOn, if_neg (noBrace digit small), value?_digitChar small, Option.bind_some]

/-- **The digits of a number are read as that number.** -/
theorem readOn_toDigits (n : Nat) (rest : Text) :
    readOn (.digits none) (Nat.toDigits 16 n ++ rest) = readOn (.digits (some n)) rest := by
  induction n using Nat.strongRecOn generalizing rest with
  | ind n ih =>
    by_cases small : n < 16
    · rw [Nat.toDigits_of_lt_base small, List.singleton_append, readOn_digitChar small,
        Option.getD_none, Nat.zero_mul, Nat.zero_add]
    · -- The last digit comes behind those of the quotient.
      rw [Nat.toDigits_of_base_le (by decide) (Nat.le_of_not_lt small), List.append_assoc,
        List.singleton_append, ih (n / 16) (by omega),
        readOn_digitChar (Nat.mod_lt n (by decide)), Option.getD_some, Nat.div_add_mod' n 16]

theorem ofCode?_toNat (c : Char) : ofCode? c.toNat = some c := by
  have valid : c.toNat.isValidChar := c.valid
  rw [ofCode?, if_pos valid, Char.ofNat_toNat]

theorem readOn_number (c : Char) (rest : Text) :
    readOn .between (['\\', 'u', '\x7b'] ++ Nat.toDigits 16 c.toNat ++ ['\x7d'] ++ rest) =
      (readOn .between rest).map (Prod.map (c :: ·) id) := by
  have opens :
      readOn .between (['\\', 'u', '\x7b'] ++ Nat.toDigits 16 c.toNat ++ ['\x7d'] ++ rest) =
        readOn (.digits none) (Nat.toDigits 16 c.toNat ++ '\x7d' :: rest) := by
    simp only [List.append_assoc, List.singleton_append]
    rfl
  rw [opens, readOn_toDigits, readOn, if_pos rfl, Option.bind_some, ofCode?_toNat,
    Option.bind_some]

/-- **A character as it stands in a quoted text is read as itself.** -/
theorem readOn_quoteChar (hidden : Char → Bool) (c : Char) (rest : Text) :
    readOn .between (quoteChar hidden c ++ rest) =
      (readOn .between rest).map (Prod.map (c :: ·) id) := by
  rcases quoteChar_cases hidden c with ⟨mark, listed, meant, shape⟩ | shape |
    ⟨noQuote, noBackslash, _, shape⟩
  · have noNumber : mark ≠ 'u' := by
      rintro rfl
      exact absurd listed (by decide)
    rw [shape]
    show readOn .escaped (mark :: rest) = _
    rw [readOn, if_neg noNumber, meant, Option.bind_some]
  · rw [shape]
    exact readOn_number c rest
  · rw [shape, List.singleton_append, readOn, if_neg noQuote, if_neg noBackslash]

theorem readOn_content (hidden : Char → Bool) (text rest : Text) :
    readOn .between (text.flatMap (quoteChar hidden) ++ '"' :: rest) = some (text, rest) := by
  induction text with
  | nil => rfl
  | cons c later ih =>
    rw [List.flatMap_cons, List.append_assoc, readOn_quoteChar, ih]
    rfl

/-- **A quoted text is read back**, and what follows it is left. -/
theorem unquote?_quoteWith (hidden : Char → Bool) (text rest : Text) :
    unquote? (quoteWith hidden text ++ rest) = some (text, rest) := by
  have shape : quoteWith hidden text ++ rest =
      '"' :: (text.flatMap (quoteChar hidden) ++ '"' :: rest) := by
    simp only [quoteWith, List.append_assoc, List.cons_append, List.nil_append]
  rw [shape, unquote?, if_pos rfl]
  exact readOn_content hidden text rest

/-! ### One line -/

/-- Whether a character is a control character, the line separator or the paragraph separator. -/
def isBreak (c : Char) : Bool :=
  c.toNat < 0x20 || (0x7f ≤ c.toNat && c.toNat < 0xa0) || c = '\u2028' || c = '\u2029'

/-- The text has no control character and no separator of lines or paragraphs. -/
def Unbroken (text : Text) : Prop :=
  ∀ c ∈ text, isBreak c = false

instance (text : Text) : Decidable (Unbroken text) :=
  List.decidableBAll (fun c : Char => isBreak c = false) text

theorem Unbroken.append {front back : Text} (first : Unbroken front) (second : Unbroken back) :
    Unbroken (front ++ back) :=
  List.forall_mem_append.mpr ⟨first, second⟩

theorem Unbroken.lines_eq {text : Text} (unbroken : Unbroken text) (nonempty : text ≠ []) :
    text.lines = [text] := by
  have free : '\n' ∉ text := fun newline => absurd (unbroken '\n' newline) (by decide)
  rw [lines_unbroken free, if_neg nonempty]

theorem unbroken_toDigits (n : Nat) : Unbroken (Nat.toDigits 16 n) := by
  have digits : ∀ digit < 16, Unbroken [Nat.digitChar digit] := by decide
  induction n using Nat.strongRecOn with
  | ind n ih =>
    by_cases small : n < 16
    · rw [Nat.toDigits_of_lt_base small]
      exact digits n small
    · rw [Nat.toDigits_of_base_le (by decide) (Nat.le_of_not_lt small)]
      exact (ih (n / 16) (by omega)).append (digits (n % 16) (Nat.mod_lt n (by decide)))

theorem unbroken_quoteChar {hidden : Char → Bool}
    (spelled : ∀ c, isBreak c = true → hidden c = true) (c : Char) :
    Unbroken (quoteChar hidden c) := by
  rcases quoteChar_cases hidden c with ⟨mark, listed, _, shape⟩ | shape | ⟨_, _, shown, shape⟩
  · have marks : Unbroken ('\\' :: quoteMarks) := by decide
    have among : ['\\', mark] ⊆ '\\' :: quoteMarks :=
      List.cons_subset_cons _ (List.cons_subset.mpr ⟨listed, List.nil_subset _⟩)
    rw [shape]
    exact fun d member => marks d (among member)
  · have opening : Unbroken ['\\', 'u', '\x7b'] := by decide
    have closing : Unbroken ['\x7d'] := by decide
    rw [shape]
    exact (opening.append (unbroken_toDigits c.toNat)).append closing
  · intro d member
    rw [shape] at member
    rw [List.mem_singleton.mp member]
    refine Bool.eq_false_iff.mpr fun breaks => ?_
    rw [spelled c breaks] at shown
    cases shown

/-- **A quoted text stands on one line** if the characters that end lines are hidden. -/
theorem unbroken_quoteWith {hidden : Char → Bool}
    (spelled : ∀ c, isBreak c = true → hidden c = true) (text : Text) :
    Unbroken (quoteWith hidden text) := by
  have quote : Unbroken ['"'] := by decide
  refine (quote.append fun c member => ?_).append quote
  obtain ⟨d, _, written⟩ := List.mem_flatMap.mp member
  exact unbroken_quoteChar spelled d c written

/-- **The characters that end lines are among the hidden ones.** -/
theorem isHidden_of_isBreak {c : Char} (breaks : isBreak c = true) : isHidden c = true := by
  have within : ∀ range ∈ hiddenRanges, range.1 ≤ c.toNat ∧ c.toNat ≤ range.2 →
      isHidden c = true := fun range member inside =>
    List.any_eq_true.mpr ⟨range, member, by simpa using inside⟩
  simp only [isBreak, Bool.or_eq_true, Bool.and_eq_true, decide_eq_true_eq] at breaks
  rcases breaks with ((low | high) | rfl) | rfl
  · exact within (0x0, 0x1f) (by decide +kernel) ⟨by omega, by omega⟩
  · exact within (0x7f, 0xa0) (by decide +kernel) ⟨by omega, by omega⟩
  · exact within (0x2028, 0x202f) (by decide +kernel) (by decide)
  · exact within (0x2028, 0x202f) (by decide +kernel) (by decide)

end Text

/-! ### The diagnostic -/

/-- What is said of a rejected version, where the given characters are hidden. -/
def rejection (hidden : Char → Bool) (value : Text) : Text :=
  "Invalid schema version ".toList ++ value.quoteWith hidden ++
    ": expected a base-10 integer".toList

/-- Reads the version off what is said of it. -/
def rejected? (message : Text) : Option Text := do
  let rest ← "Invalid schema version ".toList.isPrefixOf? message
  let (value, ending) ← Text.unquote? rest
  if ending = ": expected a base-10 integer".toList then some value else none

/-- A message is one line, without control characters and separators, from which the value can be
read. -/
structure Tells (message value : Text) : Prop where
  unbroken : message.Unbroken
  line : message.lines = [message]
  read : rejected? message = some value

theorem message_invalidSchemaVersion (value : Text) :
    (Failure.invalidSchemaVersion value).message = rejection Text.isHidden value := rfl

theorem rejected?_rejection (hidden : Char → Bool) (value : Text) :
    rejected? (rejection hidden value) = some value := by
  have begins : "Invalid schema version ".toList.isPrefixOf? (rejection hidden value) =
      some (value.quoteWith hidden ++ ": expected a base-10 integer".toList) :=
    List.isPrefixOf?_eq_some_iff_append_eq.mpr (List.append_assoc _ _ _).symm
  rw [rejected?, begins]
  show (Text.unquote? (value.quoteWith hidden ++ ": expected a base-10 integer".toList)).bind _ = _
  rw [Text.unquote?_quoteWith]
  rfl

theorem tells_rejection {hidden : Char → Bool}
    (spelled : ∀ c, Text.isBreak c = true → hidden c = true) (value : Text) :
    Tells (rejection hidden value) value := by
  have opening : Text.Unbroken "Invalid schema version ".toList := by decide
  have ending : Text.Unbroken ": expected a base-10 integer".toList := by decide
  have unbroken : (rejection hidden value).Unbroken :=
    (opening.append (Text.unbroken_quoteWith spelled value)).append ending
  have nonempty : rejection hidden value ≠ [] :=
    List.append_ne_nil_of_left_ne_nil (List.append_ne_nil_of_left_ne_nil (by decide) _) _
  exact ⟨unbroken, unbroken.lines_eq nonempty, rejected?_rejection hidden value⟩

/-- **A rejected version can be read off its diagnostic.** Whatever characters are hidden, as long
as control characters and separators of lines and paragraphs are, the diagnostic of a version is one
line without any of them, and the version can be read off it; so two versions never have the same
diagnostic. The characters that failures hide are of this kind, and every text that is refused as a
version can be read off the failure it gives. -/
theorem rejected_version_legible :
    (∀ hidden : Char → Bool, (∀ c, Text.isBreak c = true → hidden c = true) →
      (∀ value, Tells (rejection hidden value) value) ∧
        Function.Injective (rejection hidden)) ∧
    (∀ value, Tells (Failure.invalidSchemaVersion value).message value) ∧
    (Function.Injective fun value => (Failure.invalidSchemaVersion value).message) ∧
    ∀ value failure, SchemaVersion.parse value = .error failure →
      Tells failure.message value := by
  have each : ∀ hidden, Function.Injective (rejection hidden) := by
    intro hidden value other same
    have read := congrArg rejected? same
    rw [rejected?_rejection, rejected?_rejection] at read
    exact Option.some.inj read
  have told : ∀ value, Tells (rejection Text.isHidden value) value :=
    tells_rejection fun _ => Text.isHidden_of_isBreak
  simp only [message_invalidSchemaVersion]
  refine ⟨fun hidden spelled => ⟨tells_rejection spelled, each hidden⟩, told,
    each Text.isHidden, fun value failure refused => ?_⟩
  rw [(SchemaVersion.parse_eq_error_iff.mp refused).1, message_invalidSchemaVersion]
  exact told value

/-- A value with a quote, a line end, the spelling of that line end, a separator and the wording of
the diagnostic itself. Only what ends a line is hidden here, and the accent stays as it is. -/
theorem rejected_version_legible_wording :
    let value := "\"\n\\n\u2028\u0301\": expected a base-10 integer".toList
    rejection Text.isBreak value =
        ("Invalid schema version \"\\\"\\n\\\\n\\u\x7b2028\x7d\u0301" ++
          "\\\": expected a base-10 integer\": expected a base-10 integer").toList ∧
      Tells (rejection Text.isBreak value) value ∧
      SchemaVersion.parse value = .error (.invalidSchemaVersion value) ∧
      Tells (Failure.invalidSchemaVersion value).message value := by
  intro value
  obtain ⟨anyHidden, _, _, refusals⟩ := rejected_version_legible
  have refused : SchemaVersion.parse value = .error (.invalidSchemaVersion value) := by decide
  exact ⟨by decide, (anyHidden Text.isBreak fun _ breaks => breaks).1 value, refused,
    refusals value _ refused⟩

end ExportManifest
