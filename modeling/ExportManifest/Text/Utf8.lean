/-
**Texts as bytes.**

`Utf8.encode` writes a text as UTF-8; `Utf8.take?` and `Utf8.drop?` cut a text at a number of bytes,
where that is between two characters. Reading goes through a machine over bytes (`State.step`)
whose state says which continuation bytes it still waits for. It yields one item for each
well-formed character, and one empty item for each maximal prefix of a character that some byte,
or the end, cuts short: the byte that cut it short is then read afresh.

* `Utf8.decode?` — the text, if every item is a character.
* `Utf8.decodeLossy` — the text with U+FFFD in place of each empty item.
-/

import ExportManifest.Text.Lines

namespace ExportManifest.Utf8

/-- The UTF-8 bytes of a text. -/
def encode (text : Text) : List UInt8 :=
  text.flatMap String.utf8EncodeChar

/-- The number of bytes a text takes. -/
def size (text : Text) : Nat :=
  (encode text).length

/-- A text without its first bytes, given by their number, if they are whole characters. -/
def drop? : Nat → Text → Option Text
  | 0, text => some text
  | _ + 1, [] => none
  | count + 1, c :: rest =>
    if c.utf8Size ≤ count + 1 then drop? (count + 1 - c.utf8Size) rest else none

/-- The first bytes of a text, given by their number, if they are whole characters. -/
def take? : Nat → Text → Option Text
  | 0, _ => some []
  | _ + 1, [] => none
  | count + 1, c :: rest =>
    if c.utf8Size ≤ count + 1 then (take? (count + 1 - c.utf8Size) rest).map (c :: ·) else none

/-- Between characters, or inside one: `more` continuation bytes are due, the next of them
between `low` and `high`, and `code` is the value of the bits read so far. -/
inductive State
  | between
  | inside (more : Nat) (low high : Nat) (code : Nat)

/-- What a byte means between characters: the items it completes, and the state after it. -/
def State.start (byte : Nat) : List (Option Char) × State :=
  if byte < 0x80 then ([some (Char.ofNat byte)], .between)
  else if byte < 0xc2 then ([none], .between)
  else if byte < 0xe0 then ([], .inside 1 0x80 0xbf (byte - 0xc0))
  else if byte = 0xe0 then ([], .inside 2 0xa0 0xbf 0)
  else if byte = 0xed then ([], .inside 2 0x80 0x9f 13)
  else if byte < 0xf0 then ([], .inside 2 0x80 0xbf (byte - 0xe0))
  else if byte = 0xf0 then ([], .inside 3 0x90 0xbf 0)
  else if byte < 0xf4 then ([], .inside 3 0x80 0xbf (byte - 0xf0))
  else if byte = 0xf4 then ([], .inside 3 0x80 0x8f 4)
  else ([none], .between)

/-- What the next byte means in a state: the items it completes, and the state after it. -/
def State.step : State → Nat → List (Option Char) × State
  | .between, byte => start byte
  | .inside more low high code, byte =>
    if low ≤ byte ∧ byte ≤ high then
      let code := code * 64 + (byte - 0x80)
      if more ≤ 1 then ([some (Char.ofNat code)], .between)
      else ([], .inside (more - 1) 0x80 0xbf code)
    else
      let fresh := start byte
      (none :: fresh.1, fresh.2)

/-- What the end of the bytes means in a state. -/
def State.finish : State → List (Option Char)
  | .between => []
  | .inside .. => [none]

/-- The items of a byte string read from a state. -/
def State.items : State → List UInt8 → List (Option Char)
  | state, [] => state.finish
  | state, byte :: bytes =>
    let reading := state.step byte.toNat
    reading.1 ++ reading.2.items bytes

/-- The items of a byte string: its characters, and `none` for each ill-formed run. -/
def items (bytes : List UInt8) : List (Option Char) :=
  State.between.items bytes

/-- The text of a well-formed byte string. -/
def decode? (bytes : List UInt8) : Option Text :=
  (items bytes).mapM id

/-- The text of a byte string, with U+FFFD for each ill-formed run. -/
def decodeLossy (bytes : List UInt8) : Text :=
  (items bytes).map fun item => item.getD '\ufffd'

end ExportManifest.Utf8
