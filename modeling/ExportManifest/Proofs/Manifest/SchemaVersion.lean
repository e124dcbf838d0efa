/-
**A schema version is a 64-bit integer in base ten.**

A version is given as text. What counts is the text without the white space at its two ends: it has
to be one optional sign and one or more ASCII digits, and the integer that these denote has to fit
in 64 bits. How many digits there are plays no part, and neither do zeros in front.

* `parse_eq_ok_iff`, `parse_eq_error_iff`: which texts are accepted, which are refused, and that a
  refusal carries the text as it was given.
* `parse_signed`: reading the digits one after another, with a check at each, gives the same answer.
* `parse_ofInt`: **every version is read back from its decimal form**, with any white space around.
* `parse_exactly_int64`: all of this for every text.
-/

import ExportManifest.Manifest.Basic
import ExportManifest.Proofs.Text.Decimal

namespace ExportManifest.SchemaVersion

theorem parse_eq_ok_iff {value : Text} {version : Int64} :
    parse value = .ok version ↔ Decimal.Denotes value.trim version.toInt := by
  rw [← Decimal.toInt64?_eq_some_iff]
  unfold parse
  cases Decimal.toInt64? value.trim <;> simp

theorem parse_eq_error_iff {value : Text} {failure : Failure} :
    parse value = .error failure ↔
      failure = .invalidSchemaVersion value ∧
        ∀ n, Decimal.Denotes value.trim n → n < -2 ^ 63 ∨ 2 ^ 63 - 1 < n := by
  rw [← Decimal.toInt64?_eq_none_iff]
  unfold parse
  cases Decimal.toInt64? value.trim <;> simp [eq_comm]

/-- **Digit by digit, with a check at each digit, the answer is the same.** -/
theorem parse_signed {value digits : Text} {negative : Bool}
    (written : Decimal.Signed value.trim negative digits) :
    parse value =
      match Decimal.accumulate? negative digits with
      | some version => .ok version
      | none => .error (.invalidSchemaVersion value) := by
  have reading := written.toInt64?_eq
  unfold parse
  cases total : Decimal.accumulate? negative digits with
  | none => rw [reading, total]
  | some version => rw [reading, total]

theorem parse_ofInt (version : Int64) {before after : Text}
    (leading : ∀ c ∈ before, c ∈ Text.whiteSpace) (trailing : ∀ c ∈ after, c ∈ Text.whiteSpace) :
    parse (before ++ Decimal.ofInt version.toInt ++ after) = .ok version := by
  have denotes := Decimal.denotes_ofInt version.toInt
  have stripped : Text.Stripped (before ++ Decimal.ofInt version.toInt ++ after)
      (Decimal.ofInt version.toInt) :=
    { whole := ⟨before, after, rfl, leading, trailing⟩
      first := fun c member => denotes.not_mem_whiteSpace c (List.mem_of_mem_head? member)
      last := fun c member => denotes.not_mem_whiteSpace c (List.mem_of_mem_getLast? member) }
  rw [parse_eq_ok_iff, ← Text.stripped_iff.mp stripped]
  exact denotes

/-- **A text is accepted as a schema version exactly if it is a 64-bit integer in base ten.** Every
text has one stripped form. It is read as an integer exactly if its stripped form denotes that
integer, by one optional sign and one or more digits, and the integer lies within the 64 bits; it is
refused, with the text as it was given, exactly if its stripped form denotes no integer within them.
A 64-bit total that is checked at each digit gives the same answer, whatever the digits. And every
version is read from its decimal form with any white space around it. -/
theorem parse_exactly_int64 (value : Text) :
    (∃ core, (∀ other, value.Stripped other ↔ other = core) ∧
      (∀ n : Int, (∃ version : Int64, parse value = .ok version ∧ version.toInt = n) ↔
        Decimal.Denotes core n ∧ -2 ^ 63 ≤ n ∧ n ≤ 2 ^ 63 - 1) ∧
      (∀ failure, parse value = .error failure ↔
        failure = .invalidSchemaVersion value ∧
          ∀ n, Decimal.Denotes core n → n < -2 ^ 63 ∨ 2 ^ 63 - 1 < n) ∧
      ∀ negative digits, Decimal.Signed core negative digits →
        parse value =
          match Decimal.accumulate? negative digits with
          | some version => .ok version
          | none => .error (.invalidSchemaVersion value)) ∧
    ∀ (version : Int64) (before after : Text), (∀ c ∈ before, c ∈ Text.whiteSpace) →
      (∀ c ∈ after, c ∈ Text.whiteSpace) →
        parse (before ++ Decimal.ofInt version.toInt ++ after) = .ok version := by
  refine ⟨⟨value.trim, fun other => Text.stripped_iff, fun n => ?_, fun failure =>
    parse_eq_error_iff, fun negative digits => parse_signed⟩, fun version before after leading
    trailing => parse_ofInt version leading trailing⟩
  simp only [parse_eq_ok_iff]
  constructor
  · rintro ⟨version, denotes, rfl⟩
    have lower := version.le_toInt
    have upper := version.toInt_lt
    exact ⟨denotes, by omega, by omega⟩
  · rintro ⟨denotes, lower, upper⟩
    have fits : (Int64.ofInt n).toInt = n := Int64.toInt_ofInt_of_le (by omega) (by omega)
    exact ⟨Int64.ofInt n, by rwa [fits], fits⟩

/-- The least version with zeros in front, between an em space and a line end, is accepted. Without
its sign it is one too large, and is refused as it was given. -/
theorem parse_exactly_int64_limits :
    let least := "\u2003-00009223372036854775808\n".toList
    let tooLarge := " +9223372036854775808".toList
    Text.Stripped least "-00009223372036854775808".toList ∧
      parse least = .ok Int64.minValue ∧
      Text.Stripped tooLarge "+9223372036854775808".toList ∧
      parse tooLarge = .error (.invalidSchemaVersion tooLarge) ∧
      parse (['\u3000'] ++ Decimal.ofInt Int64.maxValue.toInt ++ ['\r']) = .ok Int64.maxValue := by
  intro least tooLarge
  have blank : ∀ c ∈ Text.whiteSpace, ∀ d ∈ [c], d ∈ Text.whiteSpace := by
    rintro c member d inside
    rwa [List.mem_singleton.mp inside]
  have strippedLeast : Text.Stripped least "-00009223372036854775808".toList :=
    { whole := ⟨['\u2003'], ['\n'], by decide, blank _ (by decide), blank _ (by decide)⟩
      first := by rintro c ⟨⟩; decide
      last := by rintro c ⟨⟩; decide }
  have strippedTooLarge : Text.Stripped tooLarge "+9223372036854775808".toList :=
    { whole := ⟨[' '], [], by decide, blank _ (by decide), List.forall_mem_nil _⟩
      first := by rintro c ⟨⟩; decide
      last := by rintro c ⟨⟩; decide }
  have digitsLeast : "00009223372036854775808".toList ⊆ "0123456789".toList := by decide
  have digitsTooLarge : "9223372036854775808".toList ⊆ "0123456789".toList := by decide
  have signedLeast : Decimal.Signed "-00009223372036854775808".toList true
      "00009223372036854775808".toList := ⟨rfl, by decide, fun _ member => digitsLeast member⟩
  have signedTooLarge : Decimal.Signed "+9223372036854775808".toList false
      "9223372036854775808".toList :=
    ⟨Or.inr rfl, by decide, fun _ member => digitsTooLarge member⟩
  have accepted : Decimal.accumulate? true "00009223372036854775808".toList =
      some Int64.minValue := by decide +kernel
  have overflows : Decimal.accumulate? false "9223372036854775808".toList = none := by
    decide +kernel
  obtain ⟨⟨core, only, _, _, checked⟩, written⟩ := parse_exactly_int64 least
  obtain ⟨⟨other, onlyOther, _, _, checkedOther⟩, _⟩ := parse_exactly_int64 tooLarge
  rw [(only _).mp strippedLeast] at signedLeast
  rw [(onlyOther _).mp strippedTooLarge] at signedTooLarge
  refine ⟨strippedLeast, ?_, strippedTooLarge, ?_,
    written Int64.maxValue ['\u3000'] ['\r'] (blank _ (by decide)) (blank _ (by decide))⟩
  · rw [checked _ _ signedLeast, accepted]
  · rw [checkedOther _ _ signedTooLarge, overflows]

end ExportManifest.SchemaVersion
