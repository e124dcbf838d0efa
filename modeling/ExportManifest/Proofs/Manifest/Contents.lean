/-
**What a document says is what is read from it.**

`Manifest.SpelledBy` says that a text is a document of a manifest, in terms of the grammar of JSON
and of records alone: the members of either kind of object in any order and among members of other
names, or its values as an array, with any blanks between the tokens and any way to write each
character. `Manifest.kinds` says what a manifest asks of its members.

* `Json.Numeral.int64?_eq_some_iff`: a number of 64 bits has one spelling only, because digits that
  do not begin with zero are those of their value (`Json.Decimal.ofNat_value`).
* `Signature.ofJson?_eq_some_iff`, `Manifest.ofJson?_eq_some_iff`: a value is read as what it says.
* `Signature.ofJson?_eq_none_iff`, `Manifest.ofJson?_eq_none_iff`: only flawed values are refused.
* `Manifest.read_iff_spelled`: **a text is read as a manifest if and only if it is a document of
  it**, and a well-formed value is refused if and only if it is flawed or not the whole text.
-/

import ExportManifest.Proofs.Json.Acceptance
import ExportManifest.Proofs.Json.Characters
import ExportManifest.Proofs.Json.Records
import ExportManifest.Proofs.Manifest.RoundTrip

namespace ExportManifest

namespace Json

/-! ### Numbers have one spelling -/

/-- A digit is the digit of its value. -/
theorem digitChar_of_isDigit {c : Char} (isDigit : c.isDigit = true) :
    c.toNat - '0'.toNat < 10 ∧ Nat.digitChar (c.toNat - '0'.toNat) = c := by
  obtain ⟨lower, upper⟩ := Char.isDigit_iff_toNat.mp isDigit
  have table : ∀ n < 10, Nat.digitChar n = Char.ofNat ('0'.toNat + n) := by decide
  have small : c.toNat - '0'.toNat < 10 := by
    have nine : '9'.toNat = '0'.toNat + 9 := rfl
    omega
  refine ⟨small, ?_⟩
  rw [table _ small, Nat.add_sub_cancel' lower, Char.ofNat_toNat]

/-- Digits behind those of a positive number are digits of the number that both write. -/
theorem toDigits_ofDigitChars {digits : Text} (run : ∀ c ∈ digits, c.isDigit = true) {start : Nat}
    (positive : 0 < start) :
    Nat.toDigits 10 (Nat.ofDigitChars 10 digits start) = Nat.toDigits 10 start ++ digits := by
  induction digits generalizing start with
  | nil => rw [Nat.ofDigitChars_nil, List.append_nil]
  | cons c later ih =>
    obtain ⟨small, isDigit⟩ := digitChar_of_isDigit (run c List.mem_cons_self)
    have joined := Nat.toDigits_append_toDigits (by omega) positive small
    rw [Nat.toDigits_of_lt_base small, isDigit] at joined
    have laterRun := fun d member => run d (List.mem_cons_of_mem _ member)
    rw [Nat.ofDigitChars_cons, ih laterRun (by omega), ← joined, List.append_assoc,
      List.singleton_append]

/-- **Digits that do not begin with zero are the digits of their value.** -/
theorem Decimal.ofNat_value {digits : Text} (run : Digits digits)
    (noZero : digits.head? ≠ some '0') : Decimal.ofNat (Decimal.value digits) = digits := by
  obtain ⟨c, later, rfl⟩ := List.exists_cons_of_ne_nil run.1
  obtain ⟨small, isDigit⟩ := digitChar_of_isDigit (run.2 c List.mem_cons_self)
  have positive : 0 < c.toNat - '0'.toNat := by
    refine Nat.pos_of_ne_zero fun zero => noZero ?_
    rw [zero] at isDigit
    rw [← isDigit]
    rfl
  show Nat.toDigits 10 (Nat.ofDigitChars 10 (c :: later) 0) = _
  rw [Nat.ofDigitChars_cons, Nat.mul_zero, Nat.zero_add,
    toDigits_ofDigitChars (fun d member => run.2 d (List.mem_cons_of_mem _ member)) positive,
    Nat.toDigits_of_lt_base small, isDigit, List.singleton_append]

/-- **A 64-bit integer has one spelling**: its digits, without a fraction, an exponent or the minus
sign of zero. -/
theorem Numeral.int64?_eq_some_iff {numeral : Numeral} (wellFormed : numeral.WellFormed)
    {version : Int64} :
    numeral.int64? = some version ↔ numeral = Numeral.ofInt version.toInt := by
  constructor
  · intro found
    -- The grammar allows no leading zeros, so the digits can be found again from the value.
    have canonical : Decimal.ofNat (Decimal.value numeral.whole) = numeral.whole := by
      rcases wellFormed.whole with zero | ⟨run, noZero⟩
      · rw [zero]
        rfl
      · exact Decimal.ofNat_value run noZero
    obtain ⟨negative, whole, fraction, exponent⟩ := numeral
    unfold Numeral.int64? at found
    split at found
    · cases found
    · rename_i integral
      simp only [Bool.or_eq_true, Bool.not_eq_true', List.isEmpty_eq_false_iff, not_or,
        not_not] at integral
      obtain ⟨rfl, rfl⟩ := integral
      cases negative with
      | false =>
        rw [Decimal.int64?_eq_some_iff.mp found]
        show _ = Numeral.ofInt (Int.ofNat _)
        rw [Numeral.ofInt, canonical]
      | true =>
        simp only [if_true] at found
        split at found
        · cases found
        · rename_i nonzero
          obtain ⟨n, successor⟩ := Nat.exists_eq_succ_of_ne_zero nonzero
          rw [Decimal.int64?_eq_some_iff.mp found, successor]
          show _ = Numeral.ofInt (Int.negSucc n)
          rw [Numeral.ofInt, ← Nat.succ_eq_add_one, ← successor, canonical]
  · rintro rfl
    exact Numeral.int64?_ofInt version

/-! ### Kinds of values -/

/-- A string that is a text. -/
def IsText (json : Json) : Prop :=
  ∃ content, json = .string (some content)

/-- A number written as a 64-bit integer. -/
def IsInt64 (json : Json) : Prop :=
  ∃ version : Int64, json = .number (.ofInt version.toInt)

/-- An array of values of one kind. -/
def IsListOf (kind : Json → Prop) (json : Json) : Prop :=
  ∃ items, json = .array items ∧ ∀ item ∈ items, kind item

theorem text?_eq_some_iff {json : Json} {content : Text} :
    json.text? = some content ↔ json = .string (some content) := by
  cases json <;> simp [text?]

theorem items?_eq_some_iff {json : Json} {items : List Json} :
    json.items? = some items ↔ json = .array items := by
  cases json <;> simp [items?]

/-- A spelled value is a 64-bit integer only as the digits of that integer. -/
theorem int64?_eq_some_iff {json : Json} {text : Text} (spelled : Spells json text)
    {version : Int64} : json.int64? = some version ↔ json = .number (.ofInt version.toInt) := by
  cases spelled with
  | number wellFormed =>
    rw [int64?, Numeral.int64?_eq_some_iff wellFormed, number.injEq]
  | _ => simp [int64?]

end Json

/-! ### Functions -/

namespace Signature

/-- The members of a function, with their values. -/
def fields (signature : Signature) : List (Text × Json) :=
  [("name".toList, .string (some signature.name)),
    ("return_type".toList, .string (some signature.returnType)),
    ("args".toList, .string (some signature.args))]

/-- The value says the function: it is a record of its members. -/
def SaidBy (signature : Signature) (json : Json) : Prop :=
  Json.Holds signature.fields json

/-- What a function asks of its members. -/
def kinds : List (Text × (Json → Prop)) :=
  [("name".toList, Json.IsText), ("return_type".toList, Json.IsText), ("args".toList, Json.IsText)]

theorem ofJson?_eq_some_iff_record? {json : Json} {signature : Signature} :
    ofJson? json = some signature ↔
      Json.record? keys json = some (signature.fields.map Prod.snd) := by
  unfold ofJson?
  split
  · rename_i name returnType args record
    simp only [bind, Option.bind_eq_some_iff, Json.text?_eq_some_iff, record]
    constructor
    · rintro ⟨_, rfl, _, rfl, _, rfl, same⟩
      cases same
      rfl
    · intro same
      cases same
      exact ⟨_, rfl, _, rfl, _, rfl, rfl⟩
  · rename_i other
    refine ⟨fun found => ?_, fun record => absurd record (other _ _ _)⟩
    cases found

/-- **A value is read as the function that it says.** -/
theorem ofJson?_eq_some_iff {json : Json} {signature : Signature} :
    ofJson? json = some signature ↔ signature.SaidBy json := by
  have distinct : (signature.fields.map Prod.fst).Nodup := show keys.Nodup by decide
  exact ofJson?_eq_some_iff_record?.trans (Json.record?_eq_some_iff distinct)

/-- **Only flawed values are refused as functions.** -/
theorem ofJson?_eq_none_iff {json : Json} : ofJson? json = none ↔ Json.Flawed kinds json := by
  rw [Json.flawed_iff, Option.eq_none_iff_forall_ne_some, ← not_exists]
  refine not_congr ⟨?_, ?_⟩
  · rintro ⟨signature, found⟩
    exact ⟨_, ofJson?_eq_some_iff_record?.mp found,
      .cons ⟨_, rfl⟩ (.cons ⟨_, rfl⟩ (.cons ⟨_, rfl⟩ .nil))⟩
  · rintro ⟨values, record, fit⟩
    obtain _ | ⟨⟨name, rfl⟩, _ | ⟨⟨returnType, rfl⟩, _ | ⟨⟨args, rfl⟩, _ | _⟩⟩⟩ := fit
    exact ⟨{ name, returnType, args }, ofJson?_eq_some_iff_record?.mpr record⟩

/-- The values say the functions, one after another. -/
def ListedBy (functions : List Signature) (items : List Json) : Prop :=
  List.Forall₂ (fun item signature => SaidBy signature item) items functions

theorem mapM_ofJson?_eq_some_iff {items : List Json} {functions : List Signature} :
    items.mapM ofJson? = some functions ↔ ListedBy functions items := by
  unfold ListedBy
  simp only [Json.mapM_eq_some_iff_forall₂, ofJson?_eq_some_iff]

/-- Values without a flaw list functions. -/
theorem exists_listedBy_iff {items : List Json} :
    (∃ functions, ListedBy functions items) ↔ ∀ item ∈ items, ¬ Json.Flawed kinds item := by
  unfold ListedBy
  rw [Json.exists_forall₂_iff]
  refine forall₂_congr fun item _ => ?_
  rw [← ofJson?_eq_none_iff, ← ne_eq, Option.ne_none_iff_exists']
  simp only [ofJson?_eq_some_iff]

end Signature

/-! ### Manifests -/

namespace Manifest

/-- The members of a manifest, with their values; its functions are given. -/
def fields (manifest : Manifest) (functions : List Json) : List (Text × Json) :=
  [("schema_version".toList, .number (.ofInt manifest.schemaVersion.toInt)),
    ("source".toList, .string (some manifest.source)),
    ("timestamp".toList, .string (some manifest.timestamp)),
    ("exported_functions".toList, .array functions)]

/-- The value says the manifest: it is a record of its members, and the items of the last of them
say the functions. -/
def SaidBy (manifest : Manifest) (json : Json) : Prop :=
  ∃ functions, Signature.ListedBy manifest.functions functions ∧
    Json.Holds (manifest.fields functions) json

/-- The text is a document of the manifest: between blanks, it spells a value that says the
manifest. -/
def SpelledBy (manifest : Manifest) (text : Text) : Prop :=
  ∃ json before body after, manifest.SaidBy json ∧ Json.Blanks before ∧ Json.Spells json body ∧
    Json.Blanks after ∧ text = before ++ (body ++ after)

/-- What a manifest asks of its members. -/
def kinds : List (Text × (Json → Prop)) :=
  [("schema_version".toList, Json.IsInt64), ("source".toList, Json.IsText),
    ("timestamp".toList, Json.IsText),
    ("exported_functions".toList, Json.IsListOf fun item => ¬ Json.Flawed Signature.kinds item)]

theorem ofJson?_eq_some_iff_record? {json : Json} {text : Text} (spelled : Json.Spells json text)
    {manifest : Manifest} :
    ofJson? json = some manifest ↔
      ∃ functions, Signature.ListedBy manifest.functions functions ∧
        Json.record? keys json = some ((manifest.fields functions).map Prod.snd) := by
  unfold ofJson?
  split
  · rename_i version source timestamp functions record
    obtain ⟨digits, versionSpelled⟩ := spelled.of_record? record List.mem_cons_self
    simp only [bind, Option.bind_eq_some_iff, Json.text?_eq_some_iff, Json.items?_eq_some_iff,
      Json.int64?_eq_some_iff versionSpelled, Signature.mapM_ofJson?_eq_some_iff, record]
    constructor
    · rintro ⟨_, rfl, _, rfl, _, rfl, items, rfl, _, said, same⟩
      cases same
      exact ⟨items, said, rfl⟩
    · rintro ⟨items, said, same⟩
      cases same
      exact ⟨_, rfl, _, rfl, _, rfl, items, rfl, _, said, rfl⟩
  · rename_i other
    constructor
    · intro found
      cases found
    · rintro ⟨functions, _, record⟩
      exact absurd record (other _ _ _ _)

/-- **A spelled value is read as the manifest that it says.** -/
theorem ofJson?_eq_some_iff {json : Json} {text : Text} (spelled : Json.Spells json text)
    {manifest : Manifest} : ofJson? json = some manifest ↔ manifest.SaidBy json := by
  rw [ofJson?_eq_some_iff_record? spelled]
  refine exists_congr fun functions => and_congr_right fun _ => ?_
  have distinct : ((manifest.fields functions).map Prod.fst).Nodup := show keys.Nodup by decide
  exact Json.record?_eq_some_iff distinct

/-- **Only flawed values are refused as manifests.** -/
theorem ofJson?_eq_none_iff {json : Json} {text : Text} (spelled : Json.Spells json text) :
    ofJson? json = none ↔ Json.Flawed kinds json := by
  rw [Json.flawed_iff, Option.eq_none_iff_forall_ne_some, ← not_exists]
  refine not_congr ⟨?_, ?_⟩
  · rintro ⟨manifest, found⟩
    obtain ⟨functions, said, record⟩ := (ofJson?_eq_some_iff_record? spelled).mp found
    exact ⟨_, record, .cons ⟨_, rfl⟩ (.cons ⟨_, rfl⟩ (.cons ⟨_, rfl⟩
      (.cons ⟨functions, rfl, Signature.exists_listedBy_iff.mp ⟨_, said⟩⟩ .nil)))⟩
  · rintro ⟨values, record, fit⟩
    obtain _ | ⟨⟨schemaVersion, rfl⟩, _ | ⟨⟨source, rfl⟩, _ | ⟨⟨timestamp, rfl⟩,
      _ | ⟨⟨items, rfl, sound⟩, _ | _⟩⟩⟩⟩ := fit
    obtain ⟨functions, said⟩ := Signature.exists_listedBy_iff.mpr sound
    exact ⟨{ schemaVersion, source, timestamp, functions },
      (ofJson?_eq_some_iff_record? spelled).mpr ⟨items, said, record⟩⟩

/-- A value that says a manifest is an array or an object. -/
theorem structured_of_ofJson? {json : Json} {manifest : Manifest}
    (found : ofJson? json = some manifest) : Json.Structured json := by
  cases json with
  | array => trivial
  | object => trivial
  | _ => cases found

/-- **Nothing but blanks may follow the value of a manifest.** -/
theorem parse?_trailing {json : Json} {before body after : Text} (leading : Json.Blanks before)
    (spelled : Json.Spells json body) (trailing : ¬ Json.Blanks after) :
    parse? (before ++ (body ++ after)) = none := by
  rw [parse?, Option.bind_eq_none_iff]
  intro found reads
  refine Option.eq_none_iff_forall_ne_some.mpr fun manifest said => ?_
  have structured := (Json.structured_of_parse? leading spelled reads).mp
    (structured_of_ofJson? said)
  rw [Json.parse?_structured leading spelled structured trailing] at reads
  cases reads

/-- **A text is read as a manifest if and only if it is a document of the manifest.** Where a text
begins with a spelled value, it is refused if and only if the value is flawed or something other
than blanks follows it. The strings in all this are those of their characters, each written in any
of its ways. -/
theorem read_iff_spelled :
    (∀ (manifest : Manifest) (text : Text),
        parse? text = some manifest ↔ manifest.SpelledBy text) ∧
      (∀ (json : Json) (before body after : Text), Json.Blanks before → Json.Spells json body →
        (parse? (before ++ (body ++ after)) = none ↔
          Json.Flawed kinds json ∨ ¬ Json.Blanks after)) ∧
      ∀ content text : Text, Json.SpellsString (some content) text ↔
        ∃ body, Json.SpellsText content body ∧ text = '"' :: (body ++ ['"']) := by
  refine ⟨fun manifest text => ?_, fun json before body after leading spelled => ?_,
    fun content text => Json.spellsString_some_iff⟩
  · rw [parse?, Option.bind_eq_some_iff]
    constructor
    · rintro ⟨json, reads, found⟩
      obtain ⟨before, body, after, leading, spelled, trailing, shape⟩ :=
        Json.parse?_eq_some_iff.mp reads
      exact ⟨json, before, body, after, (ofJson?_eq_some_iff spelled).mp found, leading, spelled,
        trailing, shape⟩
    · rintro ⟨json, before, body, after, said, leading, spelled, trailing, rfl⟩
      exact ⟨json, Json.parse?_spells leading spelled trailing,
        (ofJson?_eq_some_iff spelled).mpr said⟩
  · by_cases trailing : Json.Blanks after
    · rw [parse?, Json.parse?_spells leading spelled trailing, Option.bind_some,
        ofJson?_eq_none_iff spelled]
      exact ⟨Or.inl, fun flaw => flaw.resolve_right (not_not_intro trailing)⟩
    · exact iff_of_true (parse?_trailing leading spelled trailing) (Or.inr trailing)

/-- A document in which every member stands in an unusual place or form. -/
def reversedDocument : Text :=
  [" \x7b \"x\":\x7b\"\":[-0.5E+1,\"\\udc00\"]\x7d,", "\"exported_functions\" :[",
    "[\"f\",\"v\\u006Fid\",\"\"],\x7b\"y\":true,", "\"args\":\"\\/\",\"return_type\":\"\\t\",",
    "\"name\":\"\\uD83D\\uDe00\"\x7d],", "\"timestamp\":\"\",\"sourc\\u0065\":\"s\",",
    "\"schema_version\":-5\x7d\n"].flatMap String.toList

/-- The manifest of that document. -/
def reversedManifest : Manifest :=
  { schemaVersion := -5, source := "s".toList, timestamp := []
    functions := [{ name := "f".toList, returnType := "void".toList, args := [] },
      { name := "😀".toList, returnType := "\t".toList, args := "/".toList }] }

/-- How a manifest without functions is written whose version is `-0`. -/
theorem spells_minusZero :
    Json.Spells (.array [.number ⟨true, ['0'], [], []⟩, .string (some []), .string (some []),
      .array []]) "[-0,\"\",\"\",[]]".toList := by
  have none : Json.Blanks [] := fun c member => by cases member
  have zero : Json.Spells (.number ⟨true, ['0'], [], []⟩) "-0".toList :=
    .number ⟨Or.inl rfl, Or.inl rfl, Or.inl rfl⟩
  have empty : Json.Spells (.string (some [])) "\"\"".toList := .string ⟨[], [], .nil, rfl, rfl⟩
  have functions : Json.Spells (.array []) "[]".toList := .emptyArray none
  exact .array none (.cons zero none none (.cons empty none none (.cons empty none none
    (.last functions none))))

/-- That document is read as its manifest, and is refused with one more character. A manifest whose
version is written `-0` is refused. -/
theorem read_iff_spelled_reversed :
    reversedManifest.SpelledBy reversedDocument ∧
      parse? reversedDocument = some reversedManifest ∧
      parse? (reversedDocument ++ ['x']) = none ∧
      parse? "[-0,\"\",\"\",[]]".toList = none := by
  obtain ⟨read, refused, _⟩ := read_iff_spelled
  have parsed : parse? reversedDocument = some reversedManifest := by decide +kernel
  have document := (read _ _).mp parsed
  refine ⟨document, parsed, ?_, ?_⟩
  · obtain ⟨json, before, body, after, _, leading, spelled, _, shape⟩ := document
    have more : ¬ Json.Blanks (after ++ ['x']) := fun blank =>
      absurd (blank 'x' (by simp)) (by decide)
    rw [shape, List.append_assoc, List.append_assoc]
    exact (refused json before body (after ++ ['x']) leading spelled).mpr (Or.inr more)
  · have leading : Json.Blanks [] := fun c member => by cases member
    refine (refused _ [] _ [] leading spells_minusZero).mpr
      (Or.inl (.misplaced List.mem_cons_self ?_))
    rintro ⟨version, same⟩
    have found := Json.Numeral.int64?_ofInt version
    rw [← Json.number.inj same] at found
    cases found

end Manifest

end ExportManifest
