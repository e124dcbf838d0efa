/-
**A written manifest is read back.**

`Manifest.toJson` is the JSON value that a manifest stands for. Writing spells that value
(`Manifest.spells_render`) and reading takes it apart again (`Manifest.ofJson?_toJson`), so the two
are inverse for every manifest and every width of indentation (`Manifest.parse?_render`).

* `Json.spellsString_writeString`: every text is spelled by its escaped form, character by
  character; a character below U+0020 without a letter of its own is an escape by number.
* `Json.Numeral.wellFormed_ofInt`: the digits of an integer are a well-formed number, because the
  first of them is zero only for zero.
* `functionsLayout_spells`: the lines of the functions spell the items of an array, by induction on
  the functions; a comma ends every function but the last.
-/

import ExportManifest.Manifest.Layout
import ExportManifest.Manifest.Reading
import ExportManifest.Proofs.Json.Spelling
import ExportManifest.Proofs.Text.Decimal

namespace ExportManifest

/-! ### Strings -/

namespace Json

/-- The two digits of an escape by number give back the character below U+0020. -/
theorem hexQuad?_digits : ∀ n < 0x20,
    hexQuad? '0' '0' (Hexadecimal.digit (n / 16)) (Hexadecimal.digit n) = some n := by
  decide

/-- **A character as it is escaped is one unit that spells the character.** -/
theorem escapeChar_spells (c : Char) : ∃ unit, SpellsUnit unit (escapeChar c) ∧
    ∀ rest, spelled? (unit :: rest) = (spelled? rest).map (c :: ·) := by
  by_cases letter : c = '"' ∨ c = '\\' ∨ c = '\x08' ∨ c = '\x0c' ∨ c = '\n' ∨ c = '\r' ∨ c = '\t'
  · rcases letter with rfl | rfl | rfl | rfl | rfl | rfl | rfl <;>
      exact ⟨.char _, .short rfl, fun _ => rfl⟩
  · simp only [not_or] at letter
    obtain ⟨noQuote, noBackslash, noB, noF, noN, noR, noT⟩ := letter
    unfold escapeChar
    rw [if_neg noQuote, if_neg noBackslash, if_neg noB, if_neg noF, if_neg noN, if_neg noR,
      if_neg noT]
    by_cases control : c.toNat < 0x20
    · rw [if_pos control]
      refine ⟨.code c.toNat, .numbered (hexQuad?_digits _ control), fun rest => ?_⟩
      rw [spelled?_code (by omega), Char.ofNat_toNat]
    · rw [if_neg control]
      exact ⟨.char c, .plain (by omega) noQuote noBackslash, fun _ => rfl⟩

/-- The escaped characters of a text are units that spell the text. -/
theorem escaped_spells (text : Text) :
    ∃ units, SpellsUnits units (text.flatMap escapeChar) ∧ spelled? units = some text := by
  induction text with
  | nil => exact ⟨[], .nil, rfl⟩
  | cons c rest ih =>
    obtain ⟨units, spelled, content⟩ := ih
    obtain ⟨unit, first, spells⟩ := escapeChar_spells c
    refine ⟨unit :: units, ?_, ?_⟩
    · rw [List.flatMap_cons]
      exact .cons first spelled
    · rw [spells, content]
      rfl

/-- **A text as it is written is a string of that content.** -/
theorem spellsString_writeString (text : Text) : SpellsString (some text) (writeString text) := by
  obtain ⟨units, spelled, content⟩ := escaped_spells text
  exact ⟨units, _, spelled, content.symm, rfl⟩

/-! ### Numbers -/

/-- The digits of a positive number do not start with zero. -/
theorem toDigits_head (n : Nat) : 0 < n → (Nat.toDigits 10 n).head? ≠ some '0' := by
  induction n using Nat.strongRecOn with
  | _ n ih =>
    intro positive
    by_cases small : n < 10
    · rw [Nat.toDigits_of_lt_base small]
      have digits : ∀ d < 10, 0 < d → [Nat.digitChar d].head? ≠ some '0' := by decide
      exact digits n small positive
    · have shape := Nat.toDigits_append_toDigits (b := 10) (n := n / 10) (d := n % 10) (by omega)
        (by omega) (by omega)
      have front := ih (n / 10) (by omega) (by omega)
      obtain ⟨digit, others, starts⟩ :=
        List.exists_cons_of_ne_nil (Nat.toDigits_ne_nil (n := n / 10) (b := 10))
      rw [Nat.div_add_mod, starts] at shape
      rw [starts] at front
      rw [← shape]
      exact front

/-- The number that an integer is written as. -/
def Numeral.ofInt : Int → Numeral
  | .ofNat n => { negative := false, whole := Decimal.ofNat n, fraction := [], exponent := [] }
  | .negSucc n =>
    { negative := true, whole := Decimal.ofNat (n + 1), fraction := [], exponent := [] }

theorem Numeral.text_ofInt (n : Int) : (Numeral.ofInt n).text = Decimal.ofInt n := by
  cases n <;> simp [Numeral.ofInt, Numeral.text, Decimal.ofInt]

/-- **The digits of an integer are a well-formed number.** -/
theorem Numeral.wellFormed_ofInt (n : Int) : (Numeral.ofInt n).WellFormed := by
  refine ⟨?_, ?_, ?_⟩
  · cases n with
    | ofNat n =>
      cases n with
      | zero => exact Or.inl (Nat.toDigits_zero 10)
      | succ n => exact Or.inr ⟨Decimal.digits_ofNat (n + 1), toDigits_head (n + 1) (by omega)⟩
    | negSucc n => exact Or.inr ⟨Decimal.digits_ofNat (n + 1), toDigits_head (n + 1) (by omega)⟩
  · cases n <;> exact Or.inl rfl
  · cases n <;> exact Or.inl rfl

/-- **A 64-bit integer is the value of the number it is written as.** -/
theorem Numeral.int64?_ofInt (version : Int64) :
    (Numeral.ofInt version.toInt).int64? = some version := by
  have found := Decimal.int64?_toInt version
  cases shape : version.toInt with
  | ofNat n =>
    rw [shape] at found
    simp only [Numeral.ofInt, Numeral.int64?, Decimal.value_ofNat]
    rw [if_neg (by simp), if_neg (by simp)]
    exact found
  | negSucc n =>
    rw [shape] at found
    simp only [Numeral.ofInt, Numeral.int64?, Decimal.value_ofNat]
    rw [if_neg (by simp), if_pos trivial, if_neg (by omega)]
    exact found

end Json

/-! ### The value of a manifest -/

/-- The JSON value of a signature. -/
def Signature.toJson (signature : Signature) : Json :=
  .object [(some "name".toList, .string (some signature.name)),
    (some "return_type".toList, .string (some signature.returnType)),
    (some "args".toList, .string (some signature.args))]

/-- The JSON value of a manifest. -/
def Manifest.toJson (manifest : Manifest) : Json :=
  .object [(some "schema_version".toList, .number (.ofInt manifest.schemaVersion.toInt)),
    (some "source".toList, .string (some manifest.source)),
    (some "timestamp".toList, .string (some manifest.timestamp)),
    (some "exported_functions".toList, .array (manifest.functions.map Signature.toJson))]

theorem Signature.ofJson?_toJson (signature : Signature) :
    Signature.ofJson? signature.toJson = some signature := by
  rfl

theorem mapM_ofJson?_toJson (functions : List Signature) :
    (functions.map Signature.toJson).mapM Signature.ofJson? = some functions := by
  induction functions with
  | nil => rfl
  | cons signature later ih =>
    rw [List.map_cons, List.mapM_cons, Signature.ofJson?_toJson, ih]
    rfl

/-- **A manifest is found again in its JSON value.** -/
theorem Manifest.ofJson?_toJson (manifest : Manifest) :
    Manifest.ofJson? manifest.toJson = some manifest := by
  have record : Json.record? Manifest.keys manifest.toJson =
      some [.number (.ofInt manifest.schemaVersion.toInt), .string (some manifest.source),
        .string (some manifest.timestamp), .array (manifest.functions.map Signature.toJson)] := rfl
  unfold Manifest.ofJson?
  rw [record]
  simp only [Json.int64?, Json.text?, Json.items?, Json.Numeral.int64?_ofInt, mapM_ofJson?_toJson,
    bind, Option.bind_some]
  rfl

/-! ### Lines -/

/-- The blanks in front of a line. -/
def indentation (width depth : Nat) : Text :=
  List.replicate (depth * width) ' '

/-- The blanks from the end of one line to the start of the next. -/
def lineBreak (width depth : Nat) : Text :=
  '\n' :: indentation width depth

theorem LayoutLine.render_eq (width : Nat) (line : LayoutLine) :
    line.render width = indentation width line.depth ++ (line.content ++ ['\n']) := by
  rw [LayoutLine.render, List.append_assoc]
  rfl

theorem blanks_lineBreak (width depth : Nat) : Json.Blanks (lineBreak width depth) := by
  intro c member
  rcases List.mem_cons.mp member with rfl | space
  · rfl
  · rw [List.eq_of_mem_replicate space]
    rfl

theorem blanks_nil : Json.Blanks [] := by
  intro c member
  cases member

theorem blanks_space : Json.Blanks [' '] := by
  intro c member
  rw [List.mem_singleton.mp member]
  rfl

/-- The last member of an object, as it stands on its line. -/
theorem spellsMembers_last (key : Text) {value : Json} {text gap : Text}
    (spelled : Json.Spells value text) (ended : Json.Blanks gap) :
    Json.SpellsMembers [(some key, value)] (memberText key text ++ (gap ++ ['\x7d'])) := by
  have derived := Json.SpellsMembers.last (Json.spellsString_writeString key) blanks_nil
    blanks_space spelled ended
  simpa [memberText] using derived

/-- A member of an object and those on the lines below it. -/
theorem spellsMembers_cons (key : Text) {value : Json} {later : List (Option Text × Json)}
    {text gap body : Text} (spelled : Json.Spells value text) (parted : Json.Blanks gap)
    (others : Json.SpellsMembers later body) :
    Json.SpellsMembers ((some key, value) :: later)
      (memberText key text ++ ',' :: (gap ++ body)) := by
  have derived := Json.SpellsMembers.cons (Json.spellsString_writeString key) blanks_nil
    blanks_space spelled blanks_nil parted others
  simpa [memberText] using derived

theorem spells_writeString (text : Text) :
    Json.Spells (.string (some text)) (Json.writeString text) :=
  .string (Json.spellsString_writeString text)

/-! ### What the lines spell -/

/-- **The lines of a function spell its value**, whether or not another function follows. -/
theorem Signature.layout_spells (signature : Signature) (width : Nat) :
    ∃ text, Json.Spells signature.toJson text ∧
      ∀ more, (signature.layout more).flatMap (LayoutLine.render width) =
        indentation width 2 ++ (text ++ ((if more then [','] else []) ++ ['\n'])) := by
  have gap := blanks_lineBreak width 3
  have members := spellsMembers_cons "name".toList (spells_writeString signature.name) gap
    (spellsMembers_cons "return_type".toList (spells_writeString signature.returnType) gap
      (spellsMembers_last "args".toList (spells_writeString signature.args)
        (blanks_lineBreak width 2)))
  refine ⟨_, .object gap members, fun more => ?_⟩
  cases more <;>
    simp [Signature.layout, LayoutLine.render_eq, lineBreak]

/-- **The lines of the functions, and the bracket below them, spell the items of an array.** -/
theorem functionsLayout_spells (width : Nat) (signature : Signature) (later : List Signature) :
    ∃ body, Json.SpellsItems ((signature :: later).map Signature.toJson) body ∧
      (functionsLayout (signature :: later)).flatMap (LayoutLine.render width) ++
          (indentation width 1 ++ [']']) = indentation width 2 ++ body := by
  induction later generalizing signature with
  | nil =>
    obtain ⟨text, spelled, lines⟩ := signature.layout_spells width
    refine ⟨_, .last spelled (blanks_lineBreak width 1), ?_⟩
    simp [functionsLayout, lines, lineBreak]
  | cons next later ih =>
    obtain ⟨text, spelled, lines⟩ := signature.layout_spells width
    obtain ⟨body, others, below⟩ := ih next
    refine ⟨_, .cons spelled blanks_nil (blanks_lineBreak width 2) others, ?_⟩
    rw [functionsLayout, List.flatMap_append, lines, List.append_assoc, below]
    simp [lineBreak]

/-- The lines of the last member spell the array of the functions. -/
theorem Manifest.listLayout_spells (width : Nat) (functions : List Signature) :
    ∃ text, Json.Spells (.array (functions.map Signature.toJson)) text ∧
      (Manifest.listLayout functions).flatMap (LayoutLine.render width) =
        indentation width 1 ++ (memberText "exported_functions".toList text ++ ['\n']) := by
  cases functions with
  | nil =>
    refine ⟨_, .emptyArray blanks_nil, ?_⟩
    simp [Manifest.listLayout, LayoutLine.render_eq]
  | cons signature later =>
    obtain ⟨body, inside, lines⟩ := functionsLayout_spells width signature later
    have closing : (functionsLayout (signature :: later)).flatMap (LayoutLine.render width) ++
        (indentation width 1 ++ ([']'] ++ ['\n'])) = indentation width 2 ++ (body ++ ['\n']) := by
      rw [← List.append_assoc (indentation width 1), ← List.append_assoc, lines, List.append_assoc]
    refine ⟨_, .array (blanks_lineBreak width 2) inside, ?_⟩
    simp only [Manifest.listLayout, List.isEmpty_cons, Bool.false_eq_true, if_false,
      List.flatMap_append, List.flatMap_singleton, LayoutLine.render_eq, List.append_assoc, closing]
    simp [memberText, lineBreak]

/-- **A manifest as it is written spells its value**, with a newline behind it. -/
theorem Manifest.spells_render (manifest : Manifest) (width : Nat) :
    ∃ text, Json.Spells manifest.toJson text ∧ manifest.render width = text ++ ['\n'] := by
  obtain ⟨text, spelled, lines⟩ := Manifest.listLayout_spells width manifest.functions
  have version : Json.Spells (.number (.ofInt manifest.schemaVersion.toInt))
      (Decimal.ofInt manifest.schemaVersion.toInt) := by
    rw [← Json.Numeral.text_ofInt]
    exact .number (Json.Numeral.wellFormed_ofInt _)
  have gap := blanks_lineBreak width 1
  have members := spellsMembers_cons "schema_version".toList version gap
    (spellsMembers_cons "source".toList (spells_writeString manifest.source) gap
      (spellsMembers_cons "timestamp".toList (spells_writeString manifest.timestamp) gap
        (spellsMembers_last "exported_functions".toList spelled (blanks_lineBreak width 0))))
  refine ⟨_, .object gap members, ?_⟩
  rw [Manifest.render, Manifest.layout, List.flatMap_append, List.flatMap_append, lines]
  simp [LayoutLine.render_eq, lineBreak, indentation]

/-- A manifest as it is written is read as that manifest. -/
theorem Manifest.parse?_render (manifest : Manifest) (width : Nat) :
    Manifest.parse? (manifest.render width) = some manifest := by
  obtain ⟨text, spelled, written⟩ := manifest.spells_render width
  have trailing : Json.Blanks ['\n'] := blanks_lineBreak 0 0
  have read := Json.parse?_spells blanks_nil spelled trailing
  rw [List.nil_append] at read
  rw [Manifest.parse?, written, read, Option.bind_some, Manifest.ofJson?_toJson]

/-- **Rendering and reading are inverse**: whatever the manifest and the width, the written text
is read as exactly that manifest, so texts of different manifests differ at any two widths. -/
theorem Manifest.render_read_inverse (manifest : Manifest) (width : Nat) :
    Manifest.parse? (manifest.render width) = some manifest ∧
      ∀ (other : Manifest) (otherWidth : Nat), other ≠ manifest →
        other.render otherWidth ≠ manifest.render width := by
  refine ⟨manifest.parse?_render width, fun other otherWidth different same => ?_⟩
  have read := other.parse?_render otherWidth
  rw [same, manifest.parse?_render width] at read
  exact different (Option.some.inj read).symm

/-- The least version, a source of escaped and far characters and a function without any
character are read back, and no width makes the text that of the empty manifest. -/
theorem Manifest.render_read_inverse_extreme :
    let extreme : Manifest :=
      { schemaVersion := Int64.minValue
        source := ['\x00', '"', '\\', '\x1f', '\x7f', '\ufffd', '😀']
        timestamp := []
        functions := [{ name := [], returnType := [], args := [] }] }
    let empty : Manifest := { schemaVersion := 0, source := [], timestamp := [], functions := [] }
    empty ≠ extreme ∧ Manifest.parse? (extreme.render 0) = some extreme ∧
      empty.render 4 ≠ extreme.render 0 := by
  intro extreme empty
  have different : empty ≠ extreme := by decide
  obtain ⟨read, apart⟩ := extreme.render_read_inverse 0
  exact ⟨different, read, apart empty 4 different⟩

end ExportManifest
