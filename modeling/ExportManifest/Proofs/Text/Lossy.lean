/-
**Bytes that are not UTF-8 leave ASCII alone.**

Reading with U+FFFD in place of ill-formed runs keeps ASCII apart from all else. An ASCII byte is
never one of the bytes that a character still waits for, so it ends whatever came before it and is
read as itself; and no other byte has a part in an ASCII character, since every way to go on inside
a character ends beyond ASCII (`State.Sound`), as U+FFFD is.

* `decodeLossy_append_ascii`: **reading can be cut at every ASCII byte.**
* `mem_decodeLossy`: a character read is an ASCII byte of the input, or beyond ASCII.
* `decodeLossy_ascii_cons`, `decodeLossy_beyond_cons`: the first character read, by the first byte.
* `Counterpart.takeWhile`, `Counterpart.dropWhile`: a run of a class of characters is read from the
  run of its class of bytes, where the class is the same for all characters beyond ASCII.
-/

import ExportManifest.Proofs.Text.Lines
import ExportManifest.Text.Utf8

namespace ExportManifest.Utf8

/-! ### Inside a character -/

theorem beyond_ofNat {code : Nat} (beyond : 0x80 ≤ code)
    (valid : code < 0xd800 ∨ 0xdfff < code ∧ code < 0x110000) :
    0x80 ≤ (Char.ofNat code).toNat := by
  rw [Char.ofNat, dif_pos (show code.isValidChar from valid)]
  exact beyond

/-- Only bytes beyond ASCII are due, and every way to go on ends in a character beyond ASCII. -/
def EndsBeyond : Nat → Nat → Nat → Nat → Prop
  | more + 2, low, high, code =>
    0x80 ≤ low ∧ ∀ byte, low ≤ byte → byte ≤ high →
      EndsBeyond (more + 1) 0x80 0xbf (code * 64 + (byte - 0x80))
  | _, low, high, code =>
    0x80 ≤ low ∧ ∀ byte, low ≤ byte → byte ≤ high →
      0x80 ≤ (Char.ofNat (code * 64 + (byte - 0x80))).toNat

section

variable {more low high code byte : Nat} (ends : EndsBeyond more low high code)

include ends

theorem EndsBeyond.due : 0x80 ≤ low := by
  match more, ends with
  | 0, ends => exact ends.1
  | 1, ends => exact ends.1
  | _ + 2, ends => exact ends.1

theorem EndsBeyond.completes (few : more ≤ 1) (due : low ≤ byte ∧ byte ≤ high) :
    0x80 ≤ (Char.ofNat (code * 64 + (byte - 0x80))).toNat := by
  match more, ends with
  | 0, ends => exact ends.2 byte due.1 due.2
  | 1, ends => exact ends.2 byte due.1 due.2
  | _ + 2, _ => omega

theorem EndsBeyond.goesOn (many : ¬ more ≤ 1) (due : low ≤ byte ∧ byte ≤ high) :
    EndsBeyond (more - 1) 0x80 0xbf (code * 64 + (byte - 0x80)) := by
  match more, ends with
  | 0, _ => omega
  | 1, _ => omega
  | _ + 2, ends => exact ends.2 byte due.1 due.2

end

/-- One byte is due. -/
theorem endsBeyond_one {code : Nat} (above : 2 ≤ code) (below : code < 0x20) :
    EndsBeyond 1 0x80 0xbf code :=
  ⟨by omega, fun second _ _ => beyond_ofNat (by omega) (by omega)⟩

/-- Two bytes are due; the bounds of the first of them keep surrogates out. -/
theorem endsBeyond_two {low high code : Nat} (above : 0x80 ≤ low) (below : high ≤ 0xbf)
    (small : code < 0x10) (long : code = 0 → 0xa0 ≤ low) (scalar : code = 13 → high ≤ 0x9f) :
    EndsBeyond 2 low high code := by
  refine ⟨above, fun second atLeast atMost => ⟨by omega, fun third _ _ => ?_⟩⟩
  exact beyond_ofNat (by omega) (by omega)

/-- Three bytes are due; the bounds of the first of them keep out what is past the last character. -/
theorem endsBeyond_three {low high code : Nat} (above : 0x80 ≤ low) (below : high ≤ 0xbf)
    (small : code ≤ 4) (long : code = 0 → 0x90 ≤ low) (scalar : code = 4 → high ≤ 0x8f) :
    EndsBeyond 3 low high code := by
  refine ⟨above, fun second atLeast atMost => ⟨by omega, fun third _ _ =>
    ⟨by omega, fun fourth _ _ => ?_⟩⟩⟩
  exact beyond_ofNat (by omega) (by omega)

namespace State

/-- What holds of every state that reading reaches. -/
def Sound : State → Prop
  | between => True
  | inside more low high code => EndsBeyond more low high code

theorem between_sound : between.Sound :=
  trivial

theorem start_ascii {byte : Nat} (ascii : byte < 0x80) :
    start byte = ([some (Char.ofNat byte)], .between) :=
  if_pos ascii

/-- **What a first byte beyond ASCII can mean**: nothing, or the start of a character. -/
theorem start_cases {byte : Nat} (beyond : 0x80 ≤ byte) :
    start byte = ([none], .between) ∨
      ∃ more low high code,
        start byte = ([], .inside more low high code) ∧ EndsBeyond more low high code := by
  unfold start
  rw [if_neg (by omega)]
  by_cases stray : byte < 0xc2
  · rw [if_pos stray]
    exact Or.inl rfl
  rw [if_neg stray]
  by_cases two : byte < 0xe0
  · rw [if_pos two]
    exact Or.inr ⟨_, _, _, _, rfl, endsBeyond_one (by omega) (by omega)⟩
  rw [if_neg two]
  by_cases long : byte = 0xe0
  · rw [if_pos long]
    exact Or.inr ⟨_, _, _, _, rfl,
      endsBeyond_two (by omega) (by omega) (by omega) (by omega) (by omega)⟩
  rw [if_neg long]
  by_cases surrogates : byte = 0xed
  · rw [if_pos surrogates]
    exact Or.inr ⟨_, _, _, _, rfl,
      endsBeyond_two (by omega) (by omega) (by omega) (by omega) (by omega)⟩
  rw [if_neg surrogates]
  by_cases three : byte < 0xf0
  · rw [if_pos three]
    exact Or.inr ⟨_, _, _, _, rfl,
      endsBeyond_two (by omega) (by omega) (by omega) (by omega) (by omega)⟩
  rw [if_neg three]
  by_cases longest : byte = 0xf0
  · rw [if_pos longest]
    exact Or.inr ⟨_, _, _, _, rfl,
      endsBeyond_three (by omega) (by omega) (by omega) (by omega) (by omega)⟩
  rw [if_neg longest]
  by_cases four : byte < 0xf4
  · rw [if_pos four]
    exact Or.inr ⟨_, _, _, _, rfl,
      endsBeyond_three (by omega) (by omega) (by omega) (by omega) (by omega)⟩
  rw [if_neg four]
  by_cases last : byte = 0xf4
  · rw [if_pos last]
    exact Or.inr ⟨_, _, _, _, rfl,
      endsBeyond_three (by omega) (by omega) (by omega) (by omega) (by omega)⟩
  rw [if_neg last]
  exact Or.inl rfl

theorem start_sound (byte : Nat) : (start byte).2.Sound := by
  by_cases ascii : byte < 0x80
  · rw [start_ascii ascii]
    trivial
  · rcases start_cases (Nat.le_of_not_lt ascii) with starts | ⟨_, _, _, _, starts, ends⟩
    · rw [starts]
      trivial
    · rw [starts]
      exact ends

/-! ### One byte -/

/-- A byte that is due. -/
theorem step_due {more low high code byte : Nat} (due : low ≤ byte ∧ byte ≤ high) :
    (inside more low high code).step byte =
      if more ≤ 1 then ([some (Char.ofNat (code * 64 + (byte - 0x80)))], .between)
      else ([], .inside (more - 1) 0x80 0xbf (code * 64 + (byte - 0x80))) := by
  rw [step, if_pos due]

/-- A byte that is not due cuts the character short and is read afresh. -/
theorem step_cut {more low high code byte : Nat} (cut : ¬ (low ≤ byte ∧ byte ≤ high)) :
    (inside more low high code).step byte = (none :: (start byte).1, (start byte).2) := by
  rw [step, if_neg cut]

theorem step_sound {state : State} (sound : state.Sound) (byte : Nat) :
    (state.step byte).2.Sound := by
  cases state with
  | between => exact start_sound byte
  | inside more low high code =>
    by_cases due : low ≤ byte ∧ byte ≤ high
    · rw [step_due due]
      split
      · trivial
      · rename_i many
        exact EndsBeyond.goesOn sound many due
    · rw [step_cut due]
      exact start_sound byte

/-- An ASCII byte ends what came before it and is read as itself. -/
theorem step_ascii {state : State} (sound : state.Sound) {byte : Nat} (ascii : byte < 0x80) :
    state.step byte = (state.finish ++ [some (Char.ofNat byte)], .between) := by
  cases state with
  | between => exact start_ascii ascii
  | inside more low high code =>
    have above : 0x80 ≤ low := EndsBeyond.due sound
    rw [step_cut (by omega), start_ascii ascii]
    rfl

/-- A byte beyond ASCII yields only characters beyond ASCII, and ill-formed runs. -/
theorem step_beyond {state : State} (sound : state.Sound) {byte : Nat} (beyond : 0x80 ≤ byte) :
    ∀ item ∈ (state.step byte).1, 0x80 ≤ (item.getD '\ufffd').toNat := by
  have marked : 0x80 ≤ ((none : Option Char).getD '\ufffd').toNat := by decide
  have started : ∀ item ∈ (start byte).1, 0x80 ≤ (item.getD '\ufffd').toNat := by
    intro item member
    rcases start_cases beyond with starts | ⟨_, _, _, _, starts, _⟩
    · rw [starts] at member
      rw [List.mem_singleton.mp member]
      exact marked
    · rw [starts] at member
      cases member
  cases state with
  | between => exact started
  | inside more low high code =>
    by_cases due : low ≤ byte ∧ byte ≤ high
    · rw [step_due due]
      split
      · rename_i few
        intro item member
        rw [List.mem_singleton.mp member, Option.getD_some]
        exact EndsBeyond.completes sound few due
      · intro item member
        cases member
    · rw [step_cut due]
      intro item member
      rcases List.mem_cons.mp member with rfl | later
      · exact marked
      · exact started item later

/-! ### All bytes -/

/-- The text of a byte string read from a state, with U+FFFD for each ill-formed run. -/
def text (state : State) (bytes : List UInt8) : Text :=
  (state.items bytes).map fun item => item.getD '\ufffd'

theorem text_cons (state : State) (byte : UInt8) (rest : List UInt8) :
    state.text (byte :: rest) =
      ((state.step byte.toNat).1.map fun item => item.getD '\ufffd') ++
        (state.step byte.toNat).2.text rest := by
  unfold text
  rw [items, List.map_append]

theorem text_append_ascii {state : State} (sound : state.Sound) (front : List UInt8) {byte : UInt8}
    (ascii : byte.toNat < 0x80) (rest : List UInt8) :
    state.text (front ++ byte :: rest) =
      state.text front ++ Char.ofNat byte.toNat :: between.text rest := by
  induction front generalizing state with
  | nil =>
    rw [List.nil_append, text_cons, step_ascii sound ascii, List.map_append, List.append_assoc]
    rfl
  | cons first later ih =>
    rw [List.cons_append, text_cons, text_cons, ih (step_sound sound _), List.append_assoc]

theorem finish_beyond {state : State} {item : Option Char} (member : item ∈ state.finish) :
    0x80 ≤ (item.getD '\ufffd').toNat := by
  cases state with
  | between => cases member
  | inside =>
    rw [List.mem_singleton.mp member]
    decide

theorem mem_text {state : State} (sound : state.Sound) (bytes : List UInt8) {c : Char}
    (member : c ∈ state.text bytes) :
    0x80 ≤ c.toNat ∨ ∃ byte ∈ bytes, byte.toNat < 0x80 ∧ c = Char.ofNat byte.toNat := by
  induction bytes generalizing state with
  | nil =>
    obtain ⟨item, found, rfl⟩ := List.mem_map.mp member
    exact Or.inl (finish_beyond found)
  | cons byte rest ih =>
    rw [text_cons] at member
    rcases List.mem_append.mp member with now | later
    · obtain ⟨item, found, rfl⟩ := List.mem_map.mp now
      by_cases ascii : byte.toNat < 0x80
      · rw [step_ascii sound ascii] at found
        rcases List.mem_append.mp found with ended | itself
        · exact Or.inl (finish_beyond ended)
        · rw [List.mem_singleton.mp itself]
          exact Or.inr ⟨byte, List.mem_cons_self, ascii, rfl⟩
      · exact Or.inl (step_beyond sound (by omega) item found)
    · rcases ih (step_sound sound _) later with beyond | ⟨other, inside, itself⟩
      · exact Or.inl beyond
      · exact Or.inr ⟨other, List.mem_cons_of_mem _ inside, itself⟩

/-- Inside a character, something is read in any case. -/
theorem text_inside_ne_nil (more low high code : Nat) (bytes : List UInt8) :
    (inside more low high code).text bytes ≠ [] := by
  induction bytes generalizing more low high code with
  | nil => exact List.cons_ne_nil _ _
  | cons byte rest ih =>
    rw [text_cons]
    by_cases due : low ≤ byte.toNat ∧ byte.toNat ≤ high
    · rw [step_due due]
      split
      · exact List.cons_ne_nil _ _
      · exact ih _ _ _ _
    · rw [step_cut due]
      exact List.cons_ne_nil _ _

theorem text_between_ne_nil (byte : UInt8) (rest : List UInt8) :
    between.text (byte :: rest) ≠ [] := by
  rw [text_cons, step]
  by_cases ascii : byte.toNat < 0x80
  · rw [start_ascii ascii]
    exact List.cons_ne_nil _ _
  · rcases start_cases (Nat.le_of_not_lt ascii) with starts | ⟨_, _, _, _, starts, _⟩
    · rw [starts]
      exact List.cons_ne_nil _ _
    · rw [starts]
      exact text_inside_ne_nil _ _ _ _ rest

end State

/-! ### Reading a byte string -/

/-- **Reading can be cut at every ASCII byte**, whatever stands before it. -/
theorem decodeLossy_append_ascii (front : List UInt8) {byte : UInt8} (ascii : byte.toNat < 0x80)
    (rest : List UInt8) :
    decodeLossy (front ++ byte :: rest) =
      decodeLossy front ++ Char.ofNat byte.toNat :: decodeLossy rest :=
  State.text_append_ascii State.between_sound front ascii rest

theorem decodeLossy_ascii_cons {byte : UInt8} (ascii : byte.toNat < 0x80) (rest : List UInt8) :
    decodeLossy (byte :: rest) = Char.ofNat byte.toNat :: decodeLossy rest :=
  decodeLossy_append_ascii [] ascii rest

/-- A character that is read is an ASCII byte, or beyond ASCII. -/
theorem mem_decodeLossy {bytes : List UInt8} {c : Char} (member : c ∈ decodeLossy bytes) :
    0x80 ≤ c.toNat ∨ ∃ byte ∈ bytes, byte.toNat < 0x80 ∧ c = Char.ofNat byte.toNat :=
  State.mem_text State.between_sound bytes member

theorem decodeLossy_eq_nil_iff {bytes : List UInt8} : decodeLossy bytes = [] ↔ bytes = [] := by
  cases bytes with
  | nil => exact ⟨fun _ => rfl, fun _ => rfl⟩
  | cons byte rest =>
    exact ⟨fun empty => absurd empty (State.text_between_ne_nil byte rest), fun empty => by
      cases empty⟩

/-- Reading can be cut where the bytes behind do not begin beyond ASCII. -/
theorem decodeLossy_append {front rest : List UInt8}
    (apart : Stops (fun byte => decide (0x80 ≤ byte.toNat)) rest) :
    decodeLossy (front ++ rest) = decodeLossy front ++ decodeLossy rest := by
  cases rest with
  | nil => rw [List.append_nil, decodeLossy_eq_nil_iff.mpr rfl, List.append_nil]
  | cons byte later =>
    have ascii : byte.toNat < 0x80 := by simpa using apart byte rfl
    rw [decodeLossy_append_ascii front ascii, decodeLossy_ascii_cons ascii]

/-- The first character read from a byte beyond ASCII is beyond ASCII. -/
theorem decodeLossy_beyond_cons {byte : UInt8} (beyond : 0x80 ≤ byte.toNat) (rest : List UInt8) :
    ∃ c text, decodeLossy (byte :: rest) = c :: text ∧ 0x80 ≤ c.toNat := by
  let inClass : UInt8 → Bool := fun byte => decide (0x80 ≤ byte.toNat)
  have cut : byte :: rest = byte :: rest.takeWhile inClass ++ rest.dropWhile inClass :=
    congrArg (byte :: ·) List.takeWhile_append_dropWhile.symm
  rw [cut, decodeLossy_append (stops_dropWhile inClass rest)]
  cases read : decodeLossy (byte :: rest.takeWhile inClass) with
  | nil => cases decodeLossy_eq_nil_iff.mp read
  | cons c text =>
    refine ⟨c, text ++ decodeLossy (rest.dropWhile inClass), rfl, ?_⟩
    rcases mem_decodeLossy (read ▸ List.mem_cons_self) with above | ⟨other, inside, ascii, _⟩
    · exact above
    · rcases List.mem_cons.mp inside with rfl | later
      · omega
      · have above := List.mem_takeWhile_imp later
        simp only [inClass, decide_eq_true_eq] at above
        omega

/-- Bytes that are all ASCII are read as themselves. -/
theorem decodeLossy_ascii_append {front : List UInt8} (ascii : ∀ byte ∈ front, byte.toNat < 0x80)
    (rest : List UInt8) :
    decodeLossy (front ++ rest) =
      (front.map fun byte => Char.ofNat byte.toNat) ++ decodeLossy rest := by
  induction front with
  | nil => rfl
  | cons byte later ih =>
    rw [List.cons_append, decodeLossy_ascii_cons (ascii byte List.mem_cons_self),
      ih fun other inside => ascii other (List.mem_cons_of_mem _ inside)]
    rfl

/-! ### Single characters -/

theorem toNat_ofNat_ascii {code : Nat} (ascii : code < 0x80) : (Char.ofNat code).toNat = code := by
  rw [Char.ofNat, dif_pos (show code.isValidChar from Or.inl (by omega))]
  rfl

/-- The ASCII character of a byte is no other byte's. -/
theorem byte_of_ascii {byte other : UInt8} (ascii : byte.toNat < 0x80)
    (otherAscii : other.toNat < 0x80)
    (same : Char.ofNat other.toNat = Char.ofNat byte.toNat) : other = byte := by
  have codes := congrArg Char.toNat same
  rw [toNat_ofNat_ascii ascii, toNat_ofNat_ascii otherAscii] at codes
  exact UInt8.toNat_inj.mp codes

theorem mem_decodeLossy_iff (byte : UInt8) (ascii : byte.toNat < 0x80) {bytes : List UInt8} :
    Char.ofNat byte.toNat ∈ decodeLossy bytes ↔ byte ∈ bytes := by
  constructor
  · intro member
    rcases mem_decodeLossy member with above | ⟨other, inside, otherAscii, same⟩
    · rw [toNat_ofNat_ascii ascii] at above
      omega
    · rwa [← byte_of_ascii ascii otherAscii same.symm]
  · intro member
    obtain ⟨front, rest, rfl⟩ := List.append_of_mem member
    rw [decodeLossy_append_ascii front ascii]
    exact List.mem_append_right _ List.mem_cons_self

theorem getLast?_decodeLossy_iff {byte : UInt8} (ascii : byte.toNat < 0x80) {bytes : List UInt8} :
    (decodeLossy bytes).getLast? = some (Char.ofNat byte.toNat) ↔ bytes.getLast? = some byte := by
  induction bytes using breakInduction byte with
  | last bytes free =>
    constructor
    · intro ends
      exact absurd ((mem_decodeLossy_iff byte ascii).mp (List.mem_of_getLast? ends)) free
    · intro ends
      exact absurd (List.mem_of_getLast? ends) free
  | next front rest _ ih =>
    rw [decodeLossy_append_ascii front ascii, List.getLast?_append_cons, List.getLast?_append_cons]
    by_cases ended : rest = []
    · rw [ended, decodeLossy_eq_nil_iff.mpr rfl]
      exact ⟨fun _ => rfl, fun _ => rfl⟩
    · have readOn : decodeLossy rest ≠ [] := fun empty => ended (decodeLossy_eq_nil_iff.mp empty)
      rw [List.getLast?_cons_of_ne_nil ended, List.getLast?_cons_of_ne_nil readOn, ih]

/-- An ASCII byte at the end is read as the last character, and left out with it. -/
theorem decodeLossy_withoutFinal {byte : UInt8} (ascii : byte.toNat < 0x80) (bytes : List UInt8) :
    decodeLossy (withoutFinal byte bytes) =
      withoutFinal (Char.ofNat byte.toNat) (decodeLossy bytes) := by
  by_cases ends : bytes.getLast? = some byte
  · obtain ⟨front, rfl⟩ := List.getLast?_eq_some_iff.mp ends
    unfold withoutFinal
    rw [if_pos ends, if_pos ((getLast?_decodeLossy_iff ascii).mpr ends), List.dropLast_concat,
      decodeLossy_append_ascii front ascii, decodeLossy_eq_nil_iff.mpr rfl, List.dropLast_concat]
  · rw [withoutFinal_of_ne ends,
      withoutFinal_of_ne fun readEnds => ends ((getLast?_decodeLossy_iff ascii).mp readEnds)]

/-! ### Classes -/

/-- A class of characters and a class of bytes that agree on ASCII, and each of which has all or
nothing of what is beyond ASCII. -/
structure Counterpart (inClass : Char → Bool) (byteClass : UInt8 → Bool) (beyond : Bool) :
    Prop where
  ascii : ∀ byte : UInt8, byte.toNat < 0x80 → byteClass byte = inClass (Char.ofNat byte.toNat)
  text : ∀ c : Char, 0x80 ≤ c.toNat → inClass c = beyond
  bytes : ∀ byte : UInt8, 0x80 ≤ byte.toNat → byteClass byte = beyond

namespace Counterpart

/-- A single ASCII character and its byte. -/
theorem single (c : Char) (byte : UInt8) (ascii : byte.toNat < 0x80)
    (same : Char.ofNat byte.toNat = c) : Counterpart (· == c) (· == byte) false where
  ascii other otherAscii := by
    subst same
    refine Bool.eq_iff_iff.mpr ?_
    rw [beq_iff_eq, beq_iff_eq]
    exact ⟨fun equal => by rw [equal], byte_of_ascii ascii otherAscii⟩
  text other beyond := by
    refine beq_eq_false_iff_ne.mpr fun equal => ?_
    rw [equal, ← same, toNat_ofNat_ascii ascii] at beyond
    omega
  bytes other beyond := by
    refine beq_eq_false_iff_ne.mpr fun equal => ?_
    rw [equal] at beyond
    omega

variable {inClass inOther : Char → Bool} {byteClass byteOther : UInt8 → Bool}
  {beyond beyondOther : Bool}

theorem or (left : Counterpart inClass byteClass beyond)
    (right : Counterpart inOther byteOther beyondOther) :
    Counterpart (fun c => inClass c || inOther c) (fun byte => byteClass byte || byteOther byte)
      (beyond || beyondOther) where
  ascii byte small := by rw [left.ascii byte small, right.ascii byte small]
  text c above := by rw [left.text c above, right.text c above]
  bytes byte above := by rw [left.bytes byte above, right.bytes byte above]

theorem not (counterpart : Counterpart inClass byteClass beyond) :
    Counterpart (fun c => !inClass c) (fun byte => !byteClass byte) (!beyond) where
  ascii byte small := by rw [counterpart.ascii byte small]
  text c above := by rw [counterpart.text c above]
  bytes byte above := by rw [counterpart.bytes byte above]

/-- The first character read is in the class if the first byte is. -/
theorem head (counterpart : Counterpart inClass byteClass beyond) (byte : UInt8)
    (rest : List UInt8) :
    ∃ c text, decodeLossy (byte :: rest) = c :: text ∧ inClass c = byteClass byte := by
  by_cases ascii : byte.toNat < 0x80
  · exact ⟨_, _, decodeLossy_ascii_cons ascii rest, (counterpart.ascii byte ascii).symm⟩
  · obtain ⟨c, text, read, above⟩ := decodeLossy_beyond_cons (Nat.le_of_not_lt ascii) rest
    refine ⟨c, text, read, ?_⟩
    rw [counterpart.text c above, counterpart.bytes byte (Nat.le_of_not_lt ascii)]

theorem any_head? (counterpart : Counterpart inClass byteClass beyond) (bytes : List UInt8) :
    (decodeLossy bytes).head?.any inClass = bytes.head?.any byteClass := by
  cases bytes with
  | nil => rfl
  | cons byte rest =>
    obtain ⟨c, text, read, same⟩ := counterpart.head byte rest
    rw [read]
    exact same

theorem stops (counterpart : Counterpart inClass byteClass beyond) {bytes : List UInt8}
    (stops : Stops byteClass bytes) : Stops inClass (decodeLossy bytes) := by
  cases bytes with
  | nil => exact stops_nil
  | cons byte rest =>
    obtain ⟨c, text, read, same⟩ := counterpart.head byte rest
    rw [read]
    exact stops_cons (same.trans (stops byte rfl))

/-- A run of the bytes is read as a run of the characters, and apart from what is behind it. -/
theorem run (counterpart : Counterpart inClass byteClass beyond) {front rest : List UInt8}
    (inside : ∀ byte ∈ front, byteClass byte = true) (stops : Stops byteClass rest) :
    decodeLossy (front ++ rest) = decodeLossy front ++ decodeLossy rest ∧
      ∀ c ∈ decodeLossy front, inClass c = true := by
  cases beyond with
  | true =>
    -- What ends the run is an ASCII byte, since the class has all that is beyond ASCII.
    constructor
    · refine decodeLossy_append fun byte first => ?_
      refine decide_eq_false fun above => ?_
      have outside := stops byte first
      rw [counterpart.bytes byte above] at outside
      cases outside
    · intro c member
      rcases mem_decodeLossy member with above | ⟨byte, found, ascii, rfl⟩
      · exact counterpart.text c above
      · rw [← counterpart.ascii byte ascii]
        exact inside byte found
  | false =>
    -- The run is ASCII, since the class has nothing that is beyond ASCII.
    have ascii : ∀ byte ∈ front, byte.toNat < 0x80 := by
      intro byte member
      refine Nat.lt_of_not_le fun above => ?_
      have outside := inside byte member
      rw [counterpart.bytes byte above] at outside
      cases outside
    have alone := decodeLossy_ascii_append ascii []
    rw [List.append_nil, decodeLossy_eq_nil_iff.mpr rfl, List.append_nil] at alone
    rw [decodeLossy_ascii_append ascii rest, alone]
    refine ⟨rfl, fun c member => ?_⟩
    obtain ⟨byte, found, rfl⟩ := List.mem_map.mp member
    rw [← counterpart.ascii byte (ascii byte found)]
    exact inside byte found

theorem cut (counterpart : Counterpart inClass byteClass beyond) (bytes : List UInt8) :
    decodeLossy bytes =
        decodeLossy (bytes.takeWhile byteClass) ++ decodeLossy (bytes.dropWhile byteClass) ∧
      (∀ c ∈ decodeLossy (bytes.takeWhile byteClass), inClass c = true) ∧
      Stops inClass (decodeLossy (bytes.dropWhile byteClass)) := by
  have ends := stops_dropWhile byteClass bytes
  obtain ⟨apart, inside⟩ :=
    counterpart.run (fun byte member => List.mem_takeWhile_imp member) ends
  rw [List.takeWhile_append_dropWhile] at apart
  exact ⟨apart, inside, counterpart.stops ends⟩

/-- **A run of a class** is read from the run of its bytes. -/
theorem takeWhile (counterpart : Counterpart inClass byteClass beyond) (bytes : List UInt8) :
    (decodeLossy bytes).takeWhile inClass = decodeLossy (bytes.takeWhile byteClass) := by
  obtain ⟨apart, inside, ends⟩ := counterpart.cut bytes
  rw [apart, takeWhile_of_stops inside ends]

/-- **What is behind a run** is read from what is behind the run of its bytes. -/
theorem dropWhile (counterpart : Counterpart inClass byteClass beyond) (bytes : List UInt8) :
    (decodeLossy bytes).dropWhile inClass = decodeLossy (bytes.dropWhile byteClass) := by
  obtain ⟨apart, inside, ends⟩ := counterpart.cut bytes
  rw [apart, dropWhile_of_stops inside ends]

end Counterpart

/-! ### The beginning of a text -/

theorem encode_ascii_cons {c : Char} (ascii : c.toNat < 0x80) (later : Text) :
    encode (c :: later) = UInt8.ofNat c.toNat :: encode later := by
  unfold encode
  rw [List.flatMap_cons, String.utf8EncodeChar,
    if_pos (show c.val.toNat ≤ 0x7f from Nat.le_of_lt_succ ascii)]
  rfl

/-- A text of ASCII characters begins what is read if its bytes begin the bytes. -/
theorem isPrefixOf?_decodeLossy {pattern : Text} (ascii : ∀ c ∈ pattern, c.toNat < 0x80)
    (bytes : List UInt8) :
    pattern.isPrefixOf? (decodeLossy bytes) =
      ((encode pattern).isPrefixOf? bytes).map decodeLossy := by
  induction pattern generalizing bytes with
  | nil => rfl
  | cons c later ih =>
    have small : c.toNat < 0x80 := ascii c List.mem_cons_self
    have code : (UInt8.ofNat c.toNat).toNat = c.toNat := by
      rw [UInt8.toNat_ofNat']
      exact Nat.mod_eq_of_lt (by omega)
    have itself : Char.ofNat (UInt8.ofNat c.toNat).toNat = c := by rw [code, Char.ofNat_toNat]
    have byteSmall : (UInt8.ofNat c.toNat).toNat < 0x80 := by rw [code]; exact small
    rw [encode_ascii_cons small]
    cases bytes with
    | nil => rfl
    | cons byte rest =>
      obtain ⟨first, text, read, same⟩ :=
        (Counterpart.single c _ byteSmall itself).head byte rest
      by_cases equal : byte = UInt8.ofNat c.toNat
      · subst equal
        rw [decodeLossy_ascii_cons byteSmall, itself, List.isPrefixOf?, List.isPrefixOf?,
          beq_self_eq_true, beq_self_eq_true]
        exact ih (fun other member => ascii other (List.mem_cons_of_mem _ member)) rest
      · have different : (byte == UInt8.ofNat c.toNat) = false := beq_eq_false_iff_ne.mpr equal
        have readDifferent : (c == first) = false := by
          rw [Bool.beq_comm, same, different]
        rw [read, List.isPrefixOf?, List.isPrefixOf?, readDifferent, Bool.beq_comm, different]
        rfl

end ExportManifest.Utf8
