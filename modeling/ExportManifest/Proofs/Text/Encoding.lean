/-
**Texts survive being written as bytes.**

The bytes of a character take the reading machine from between characters back to between
characters, and on the way it yields that character and nothing else. The first byte of a
character of three or four bytes leaves the machine with narrower bounds for the second where a
shorter spelling, a surrogate or a number past the last character would follow; the bytes of a
character are always inside them.

* `items_utf8EncodeChar`: one character, whatever bytes follow.
* `decode?_encode`: **the bytes of a text decode to that text.**
-/

import ExportManifest.Text.Utf8

namespace ExportManifest.Utf8

/-! ### One byte -/

theorem items_cons (state : State) {byte : Nat} (small : byte < 256) (rest : List UInt8) :
    state.items (UInt8.ofNat byte :: rest) =
      (state.step byte).1 ++ (state.step byte).2.items rest := by
  have value : (UInt8.ofNat byte).toNat = byte := by
    rw [UInt8.toNat_ofNat']
    exact Nat.mod_eq_of_lt small
  rw [State.items, value]

/-- A byte within the bounds, where more are due after it. -/
theorem items_continue {more low high code byte : Nat} (many : 1 < more) (above : low ≤ byte)
    (below : byte ≤ high) (small : byte < 256) (rest : List UInt8) :
    (State.inside more low high code).items (UInt8.ofNat byte :: rest) =
      (State.inside (more - 1) 0x80 0xbf (code * 64 + (byte - 0x80))).items rest := by
  rw [items_cons _ small, State.step, if_pos ⟨above, below⟩]
  simp only
  rw [if_neg (by omega)]
  rfl

/-- The last byte of a character. -/
theorem items_complete {low high code byte : Nat} (above : low ≤ byte) (below : byte ≤ high)
    (small : byte < 256) (rest : List UInt8) :
    (State.inside 1 low high code).items (UInt8.ofNat byte :: rest) =
      some (Char.ofNat (code * 64 + (byte - 0x80))) :: State.between.items rest := by
  rw [items_cons _ small, State.step, if_pos ⟨above, below⟩]
  simp only
  rw [if_pos (by omega)]
  rfl

/-- A first byte that completes nothing. -/
theorem items_lead {byte : Nat} {state : State} (starts : State.start byte = ([], state))
    (small : byte < 256) (rest : List UInt8) :
    State.between.items (UInt8.ofNat byte :: rest) = state.items rest := by
  rw [items_cons _ small, State.step, starts]
  rfl

/-! ### First bytes -/

theorem start_two {lead : Nat} (above : 0xc2 ≤ lead) (below : lead < 0xe0) :
    State.start lead = ([], .inside 1 0x80 0xbf (lead - 0xc0)) := by
  rw [State.start, if_neg (by omega), if_neg (by omega), if_pos below]

/-- The second byte of a character of three bytes is within the bounds: the character is not one
of fewer bytes and not a surrogate. -/
theorem start_three {lead second : Nat} (above : 0xe0 ≤ lead) (below : lead < 0xf0)
    (continues : 0x80 ≤ second ∧ second ≤ 0xbf) (long : lead = 0xe0 → 0xa0 ≤ second)
    (scalar : lead = 0xed → second ≤ 0x9f) :
    ∃ low high, State.start lead = ([], .inside 2 low high (lead - 0xe0)) ∧
      low ≤ second ∧ second ≤ high := by
  rw [State.start, if_neg (by omega), if_neg (by omega), if_neg (by omega)]
  by_cases lowest : lead = 0xe0
  · rw [if_pos lowest, lowest]
    exact ⟨_, _, rfl, long lowest, continues.2⟩
  · rw [if_neg lowest]
    by_cases surrogates : lead = 0xed
    · rw [if_pos surrogates, surrogates]
      exact ⟨_, _, rfl, continues.1, scalar surrogates⟩
    · rw [if_neg surrogates, if_pos below]
      exact ⟨_, _, rfl, continues⟩

/-- The second byte of a character of four bytes is within the bounds: the character is not one of
fewer bytes and not past the last. -/
theorem start_four {lead second : Nat} (above : 0xf0 ≤ lead) (below : lead ≤ 0xf4)
    (continues : 0x80 ≤ second ∧ second ≤ 0xbf) (long : lead = 0xf0 → 0x90 ≤ second)
    (scalar : lead = 0xf4 → second ≤ 0x8f) :
    ∃ low high, State.start lead = ([], .inside 3 low high (lead - 0xf0)) ∧
      low ≤ second ∧ second ≤ high := by
  rw [State.start, if_neg (by omega), if_neg (by omega), if_neg (by omega), if_neg (by omega),
    if_neg (by omega), if_neg (by omega)]
  by_cases lowest : lead = 0xf0
  · rw [if_pos lowest, lowest]
    exact ⟨_, _, rfl, long lowest, continues.2⟩
  · rw [if_neg lowest]
    by_cases highest : lead = 0xf4
    · rw [if_neg (by omega), if_pos highest, highest]
      exact ⟨_, _, rfl, continues.1, scalar highest⟩
    · rw [if_pos (by omega)]
      exact ⟨_, _, rfl, continues⟩

/-! ### Characters and texts -/

/-- **The bytes of a character yield it and nothing else**, whatever follows them. -/
theorem items_utf8EncodeChar (c : Char) (rest : List UInt8) :
    State.between.items (String.utf8EncodeChar c ++ rest) =
      some c :: State.between.items rest := by
  have valid : c.val.toNat < 0xd800 ∨ 0xdfff < c.val.toNat ∧ c.val.toNat < 0x110000 := c.valid
  have back : ∀ code, code = c.val.toNat → Char.ofNat code = c := by
    rintro _ rfl
    exact Char.ofNat_toNat c
  unfold String.utf8EncodeChar
  simp only
  generalize c.val.toNat = code at valid back ⊢
  by_cases one : code ≤ 0x7f
  · rw [if_pos one, List.singleton_append, items_cons _ (by omega), State.step, State.start,
      if_pos (by omega), back code rfl]
    rfl
  rw [if_neg one]
  by_cases two : code ≤ 0x7ff
  · rw [if_pos two, List.cons_append, List.singleton_append,
      items_lead (start_two (by omega) (by omega)) (by omega),
      items_complete (by omega) (by omega) (by omega), back _ (by omega)]
  rw [if_neg two]
  by_cases three : code ≤ 0xffff
  · obtain ⟨low, high, starts, above, below⟩ :
        ∃ low high, State.start (code / 0x1000 % 0x10 + 0xe0) = _ ∧
          low ≤ code / 0x40 % 0x40 + 0x80 ∧ code / 0x40 % 0x40 + 0x80 ≤ high :=
      start_three (by omega) (by omega) (by omega) (by omega) (by omega)
    rw [if_pos three, List.cons_append, List.cons_append, List.singleton_append,
      items_lead starts (by omega), items_continue (by omega) above below (by omega),
      items_complete (by omega) (by omega) (by omega), back _ (by omega)]
  · obtain ⟨low, high, starts, above, below⟩ :
        ∃ low high, State.start (code / 0x40000 % 8 + 0xf0) = _ ∧
          low ≤ code / 0x1000 % 0x40 + 0x80 ∧ code / 0x1000 % 0x40 + 0x80 ≤ high :=
      start_four (by omega) (by omega) (by omega) (by omega) (by omega)
    rw [if_neg three, List.cons_append, List.cons_append, List.cons_append, List.singleton_append,
      items_lead starts (by omega), items_continue (by omega) above below (by omega),
      items_continue (by omega) (by omega) (by omega) (by omega),
      items_complete (by omega) (by omega) (by omega), back _ (by omega)]

theorem items_encode (text : Text) : items (encode text) = text.map some := by
  unfold items encode
  induction text with
  | nil => rfl
  | cons c rest ih => rw [List.flatMap_cons, items_utf8EncodeChar, ih, List.map_cons]

/-- **The bytes of a text decode to that text.** -/
theorem decode?_encode (text : Text) : decode? (encode text) = some text := by
  rw [decode?, items_encode, List.mapM_map]
  induction text with
  | nil => rfl
  | cons c rest ih =>
    rw [List.mapM_cons, ih]
    rfl

end ExportManifest.Utf8
