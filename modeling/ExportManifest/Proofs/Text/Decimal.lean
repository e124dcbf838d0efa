/-
**Decimal integers, and the 64 bits that they have to fit in.**

`Decimal.Signed` says that a text is one optional sign and one or more digits, and `Decimal.Denotes`
which integer that is: each digit counts by its place. Reading computes the integer exactly and then
compares it with the limits. A reader that keeps a 64-bit total, and gives up at the first product
or sum that does not fit, accepts the same texts: from zero on a total only moves away from zero, so
one that has left the 64 bits never comes back.

* `value_eq_positional`: the digits read from the left have the value of their places.
* `toInt?_eq_some_iff`: **a text is read as the integer that it denotes.**
* `int64?_eq_some_iff`, `int64?_eq_none_iff`: which integers fit in 64 bits.
* `push?_eq`, `foldlM_push?`: one digit, and a run of digits, on a 64-bit total.
* `accumulate?_eq`: digit by digit, no overflow is accepted and nothing that fits is refused.
-/

import ExportManifest.Proofs.Text.Blank
import ExportManifest.Text.Decimal
import Mathlib.Data.List.Induction
import Mathlib.Data.Nat.Digits.Defs

namespace ExportManifest.Decimal

/-! ### Sixty-four bits -/

theorem fitsInt64_iff {n : Int} : fitsInt64 n = true ↔ -2 ^ 63 ≤ n ∧ n ≤ 2 ^ 63 - 1 := by
  rw [fitsInt64, Bool.and_eq_true, decide_eq_true_eq, decide_eq_true_eq]
  rfl

/-- Every 64-bit integer fits in 64 bits and is found again. -/
theorem int64?_toInt (version : Int64) : int64? version.toInt = some version := by
  have lower := version.le_toInt
  have upper := version.toInt_lt
  rw [int64?, if_pos (fitsInt64_iff.mpr (by omega)), Int64.ofInt_toInt]

theorem int64?_eq_some_iff {n : Int} {version : Int64} :
    int64? n = some version ↔ version.toInt = n := by
  constructor
  · intro found
    unfold int64? at found
    split at found
    · rename_i fits
      cases found
      obtain ⟨lower, upper⟩ := fitsInt64_iff.mp fits
      exact Int64.toInt_ofInt_of_le (by omega) (by omega)
    · cases found
  · rintro rfl
    exact int64?_toInt version

theorem int64?_eq_none_iff {n : Int} : int64? n = none ↔ n < -2 ^ 63 ∨ 2 ^ 63 - 1 < n := by
  unfold int64?
  split
  · rename_i fits
    rw [fitsInt64_iff] at fits
    refine iff_of_false (Option.some_ne_none _) ?_
    omega
  · rename_i fits
    rw [fitsInt64_iff] at fits
    refine iff_of_true rfl ?_
    omega

/-! ### Digits by their places -/

/-- The number that digits write in base ten: the last of them counts ones, each digit before it
ten times as much as the next. -/
def positional (digits : Text) : Nat :=
  Nat.ofDigits 10 (digits.reverse.map fun c => c.toNat - '0'.toNat)

theorem value_ofNat (n : Nat) : value (ofNat n) = n :=
  Nat.ofDigitChars_ten_toDigits

/-- **Digits read from the left have the value of their places.** -/
theorem value_eq_positional (digits : Text) : value digits = positional digits := by
  induction digits using List.reverseRecOn with
  | nil => rfl
  | append_singleton digits c ih =>
    have last : value (digits ++ [c]) = 10 * value digits + (c.toNat - '0'.toNat) :=
      Nat.ofDigitChars_append 0
    have ones : positional (digits ++ [c]) = (c.toNat - '0'.toNat) + 10 * positional digits := by
      rw [positional, List.reverse_append, List.reverse_singleton, List.singleton_append,
        List.map_cons, Nat.ofDigits_cons, ← positional]
    rw [last, ones, ih, Nat.add_comm]

/-! ### Signs -/

/-- A number with a sign. -/
def signed (negative : Bool) (n : Nat) : Int :=
  if negative then -n else n

/-- A text is one optional sign and one or more ASCII digits. -/
structure Signed (text : Text) (negative : Bool) (digits : Text) : Prop where
  sign : if negative then text = '-' :: digits else text = digits ∨ text = '+' :: digits
  digits_ne_nil : digits ≠ []
  digits : ∀ c ∈ digits, c ∈ "0123456789".toList

/-- A text denotes an integer: its digits, by their places, with its sign. -/
def Denotes (text : Text) (n : Int) : Prop :=
  ∃ negative digits, Signed text negative digits ∧ n = signed negative (positional digits)

theorem isDigit_iff {c : Char} : c.isDigit = true ↔ c ∈ "0123456789".toList := by
  have codes : "0123456789".toList.map Char.toNat = List.range' 48 10 := rfl
  rw [Text.mem_iff_toNat_mem, codes, List.mem_range'_1, Char.isDigit_iff_toNat]
  show 48 ≤ c.toNat ∧ c.toNat ≤ 57 ↔ _
  omega

theorem toNat?_eq_some_iff {digits : Text} {n : Nat} :
    toNat? digits = some n ↔
      digits ≠ [] ∧ (∀ c ∈ digits, c ∈ "0123456789".toList) ∧ positional digits = n := by
  rw [toNat?, Option.ite_none_right_eq_some, Bool.and_eq_true, Bool.not_eq_true',
    List.isEmpty_eq_false_iff, List.all_eq_true, Option.some.injEq, value_eq_positional, and_assoc]
  simp only [isDigit_iff]

theorem toInt?_minus (digits : Text) :
    toInt? ('-' :: digits) = (toNat? digits).map (signed true) := by
  rw [toInt?]
  cases toNat? digits <;> rfl

theorem toInt?_plus (digits : Text) :
    toInt? ('+' :: digits) = (toNat? digits).map (signed false) := by
  rw [toInt?]
  cases toNat? digits <;> rfl

theorem toInt?_unsigned {text : Text} (minus : ¬ ∃ digits, text = '-' :: digits)
    (plus : ¬ ∃ digits, text = '+' :: digits) :
    toInt? text = (toNat? text).map (signed false) := by
  unfold toInt?
  split
  · exact absurd ⟨_, rfl⟩ minus
  · exact absurd ⟨_, rfl⟩ plus
  · cases toNat? text <;> rfl

theorem digits_of_map_signed {negative : Bool} {digits : Text} {n : Int}
    (reads : (toNat? digits).map (signed negative) = some n) :
    digits ≠ [] ∧ (∀ c ∈ digits, c ∈ "0123456789".toList) ∧
      n = signed negative (positional digits) := by
  obtain ⟨_, found, rfl⟩ := Option.map_eq_some_iff.mp reads
  obtain ⟨nonempty, run, rfl⟩ := toNat?_eq_some_iff.mp found
  exact ⟨nonempty, run, rfl⟩

theorem denotes_of_toInt? {text : Text} {n : Int} (reads : toInt? text = some n) :
    Denotes text n := by
  by_cases minus : ∃ digits, text = '-' :: digits
  · obtain ⟨digits, rfl⟩ := minus
    obtain ⟨nonempty, run, denoted⟩ := digits_of_map_signed (toInt?_minus digits ▸ reads)
    exact ⟨true, digits, ⟨rfl, nonempty, run⟩, denoted⟩
  by_cases plus : ∃ digits, text = '+' :: digits
  · obtain ⟨digits, rfl⟩ := plus
    obtain ⟨nonempty, run, denoted⟩ := digits_of_map_signed (toInt?_plus digits ▸ reads)
    exact ⟨false, digits, ⟨Or.inr rfl, nonempty, run⟩, denoted⟩
  · obtain ⟨nonempty, run, denoted⟩ := digits_of_map_signed (toInt?_unsigned minus plus ▸ reads)
    exact ⟨false, text, ⟨Or.inl rfl, nonempty, run⟩, denoted⟩

theorem Signed.toInt?_eq {text digits : Text} {negative : Bool}
    (written : Signed text negative digits) :
    toInt? text = some (signed negative (positional digits)) := by
  have found : toNat? digits = some (positional digits) :=
    toNat?_eq_some_iff.mpr ⟨written.digits_ne_nil, written.digits, rfl⟩
  cases negative with
  | true =>
    obtain rfl : text = '-' :: digits := written.sign
    rw [toInt?_minus, found, Option.map_some]
  | false =>
    rcases written.sign with rfl | rfl
    · -- A digit in front is no sign.
      have unsigned : ∀ sign ∉ "0123456789".toList, ¬ ∃ digits, text = sign :: digits := by
        rintro sign other ⟨digits, rfl⟩
        exact other (written.digits sign List.mem_cons_self)
      rw [toInt?_unsigned (unsigned '-' (by decide)) (unsigned '+' (by decide)), found,
        Option.map_some]
    · rw [toInt?_plus, found, Option.map_some]

/-- **A text is read as the integer that it denotes.** -/
theorem toInt?_eq_some_iff {text : Text} {n : Int} : toInt? text = some n ↔ Denotes text n := by
  constructor
  · exact denotes_of_toInt?
  · rintro ⟨negative, digits, written, rfl⟩
    exact written.toInt?_eq

theorem toInt64?_eq_some_iff {text : Text} {version : Int64} :
    toInt64? text = some version ↔ Denotes text version.toInt := by
  rw [toInt64?, Option.bind_eq_some_iff, ← toInt?_eq_some_iff]
  simp only [int64?_eq_some_iff]
  constructor
  · rintro ⟨n, reads, rfl⟩
    exact reads
  · exact fun reads => ⟨_, reads, rfl⟩

theorem toInt64?_eq_none_iff {text : Text} :
    toInt64? text = none ↔ ∀ n, Denotes text n → n < -2 ^ 63 ∨ 2 ^ 63 - 1 < n := by
  rw [toInt64?, Option.bind_eq_none_iff]
  simp only [toInt?_eq_some_iff, int64?_eq_none_iff]

/-! ### Digit by digit -/

/-- One more digit behind a 64-bit total, away from zero, unless the product or the sum does not
fit. -/
def push? (negative : Bool) (total : Int64) (c : Char) : Option Int64 :=
  (int64? (total.toInt * 10)).bind fun shifted =>
    int64? (shifted.toInt + signed negative (c.toNat - '0'.toNat))

/-- Digits read one after another into a 64-bit total. -/
def accumulate? (negative : Bool) (digits : Text) : Option Int64 :=
  digits.foldlM (push? negative) 0

/-- **A number that does not fit in 64 bits is followed by none that does.** -/
theorem int64?_signed_eq_none {negative : Bool} {n m : Nat}
    (overflows : int64? (signed negative n) = none) (larger : n ≤ m) :
    int64? (signed negative m) = none := by
  rw [int64?_eq_none_iff] at overflows ⊢
  cases negative <;> simp only [signed, Bool.false_eq_true, if_false, if_true] at overflows ⊢ <;>
    omega

/-- One digit: the checks on the way are those of the result. -/
theorem push?_eq {negative : Bool} {total : Int64} {n : Nat}
    (counted : total.toInt = signed negative n) (c : Char) :
    push? negative total c = int64? (signed negative (10 * n + (c.toNat - '0'.toNat))) := by
  have shifts : total.toInt * 10 = signed negative (10 * n) := by
    rw [counted]
    cases negative <;> simp only [signed, Bool.false_eq_true, if_false, if_true] <;> omega
  have adds : ∀ d : Nat,
      signed negative (10 * n) + signed negative d = signed negative (10 * n + d) := by
    intro d
    cases negative <;> simp only [signed, Bool.false_eq_true, if_false, if_true] <;> omega
  unfold push?
  rw [shifts]
  cases shifted : int64? (signed negative (10 * n)) with
  | none => exact (int64?_signed_eq_none shifted (Nat.le_add_right _ _)).symm
  | some product =>
    rw [Option.bind_some, int64?_eq_some_iff.mp shifted, adds]

theorem le_ofDigitChars (digits : Text) (n : Nat) : n ≤ Nat.ofDigitChars 10 digits n := by
  induction digits generalizing n with
  | nil => exact Nat.le_refl n
  | cons c rest ih =>
    rw [Nat.ofDigitChars_cons]
    exact Nat.le_trans (by omega) (ih _)

/-- **A run of digits**: behind a total, the checks at every digit are those of the number that
digits and total write together. -/
theorem foldlM_push? {negative : Bool} (digits : Text) {total : Int64} {n : Nat}
    (counted : total.toInt = signed negative n) :
    digits.foldlM (push? negative) total =
      int64? (signed negative (Nat.ofDigitChars 10 digits n)) := by
  induction digits generalizing total n with
  | nil =>
    rw [Nat.ofDigitChars_nil, ← counted, int64?_toInt]
    rfl
  | cons c rest ih =>
    rw [List.foldlM_cons, push?_eq counted, Nat.ofDigitChars_cons]
    cases pushed : int64? (signed negative (10 * n + (c.toNat - '0'.toNat))) with
    | none => exact (int64?_signed_eq_none pushed (le_ofDigitChars rest _)).symm
    | some next => exact ih (int64?_eq_some_iff.mp pushed)

/-- **No overflow on the way is accepted, and nothing that fits is refused.** -/
theorem accumulate?_eq (negative : Bool) (digits : Text) :
    accumulate? negative digits = int64? (signed negative (positional digits)) := by
  rw [← value_eq_positional]
  exact foldlM_push? digits (by cases negative <;> rfl)

theorem Signed.toInt64?_eq {text digits : Text} {negative : Bool}
    (written : Signed text negative digits) : toInt64? text = accumulate? negative digits := by
  rw [toInt64?, written.toInt?_eq, Option.bind_some, accumulate?_eq]

/-! ### Integers as they are written -/

theorem digits_ofNat (n : Nat) : ofNat n ≠ [] ∧ ∀ c ∈ ofNat n, c.isDigit = true :=
  ⟨Nat.toDigits_ne_nil, fun _ member =>
    Nat.isDigit_of_mem_toDigits (b := 10) (by omega) (by omega) member⟩

theorem denotes_ofInt (n : Int) : Denotes (ofInt n) n := by
  cases n with
  | ofNat n =>
    obtain ⟨nonempty, run⟩ := digits_ofNat n
    refine ⟨false, ofNat n, ⟨Or.inl rfl, nonempty, fun c member => isDigit_iff.mp (run c member)⟩, ?_⟩
    rw [← value_eq_positional, value_ofNat]
    rfl
  | negSucc n =>
    obtain ⟨nonempty, run⟩ := digits_ofNat (n + 1)
    refine ⟨true, ofNat (n + 1), ⟨rfl, nonempty, fun c member => isDigit_iff.mp (run c member)⟩, ?_⟩
    rw [← value_eq_positional, value_ofNat]
    rfl

/-- A number has no other characters than signs and digits. -/
theorem Denotes.mem_chars {text : Text} {n : Int} (denotes : Denotes text n) :
    ∀ c ∈ text, c ∈ "+-0123456789".toList := by
  obtain ⟨negative, digits, written, _⟩ := denotes
  have digit : ∀ c ∈ digits, c ∈ "+-0123456789".toList := fun c member =>
    List.mem_cons_of_mem _ (List.mem_cons_of_mem _ (written.digits c member))
  cases negative with
  | true =>
    obtain rfl : text = '-' :: digits := written.sign
    exact List.forall_mem_cons.mpr ⟨by decide, digit⟩
  | false =>
    rcases written.sign with rfl | rfl
    · exact digit
    · exact List.forall_mem_cons.mpr ⟨by decide, digit⟩

theorem Denotes.not_mem_whiteSpace {text : Text} {n : Int} (denotes : Denotes text n) :
    ∀ c ∈ text, c ∉ Text.whiteSpace := by
  have solid : "+-0123456789".toList.all fun c => c ∉ Text.whiteSpace := by decide
  intro c member
  exact of_decide_eq_true (List.all_eq_true.mp solid c (denotes.mem_chars c member))

end ExportManifest.Decimal
