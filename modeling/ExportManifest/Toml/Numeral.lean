/-
**Numbers in TOML.**

Digits may be grouped by single underscores, each between two digits. An integer is decimal with
an optional sign and no leading zero, or hexadecimal, octal or binary after `0x`, `0o`, `0b`, and
must fit in 64 bits. A fraction, an exponent, or one of the words `inf` and `nan` makes a
fractional number; a positive one must not be too large for a double.
-/

import ExportManifest.Text.Decimal
import ExportManifest.Text.Hexadecimal
import ExportManifest.Toml.Node

namespace ExportManifest.Toml

/-! ### Digits -/

/-- The digits after a first digit, without the underscores, and the text after them. An
underscore without a digit after it is refused. -/
def readMoreDigits (isDigit : Char → Bool) : Text → Option (Text × Text)
  | [] => some ([], [])
  | '_' :: c :: rest =>
    if isDigit c then
      (readMoreDigits isDigit rest).map fun reading => (c :: reading.1, reading.2)
    else none
  | c :: rest =>
    if isDigit c then
      (readMoreDigits isDigit rest).map fun reading => (c :: reading.1, reading.2)
    else if c = '_' then none
    else some ([], c :: rest)

/-- One or more digits, without the underscores, and the text after them. -/
def readDigits (isDigit : Char → Bool) : Text → Option (Text × Text)
  | [] => none
  | c :: rest =>
    if isDigit c then
      (readMoreDigits isDigit rest).map fun reading => (c :: reading.1, reading.2)
    else none

/-- A decimal whole number: `0` alone, or digits that do not begin with `0`. -/
def readWhole : Text → Option (Text × Text)
  | '0' :: rest => some (['0'], rest)
  | text => readDigits Char.isDigit text

/-- The number denoted by digits of a base up to sixteen. -/
def digitsValue (base : Nat) (digits : Text) : Nat :=
  digits.foldl (fun value c => value * base + (Hexadecimal.value? c).getD 0) 0

/-- Whether a character is a digit of a base up to sixteen. -/
def isDigitOf (base : Nat) (c : Char) : Bool :=
  (Hexadecimal.value? c).any fun value => value < base

/-! ### Integers -/

/-- An integer node, if the integer fits in 64 bits. -/
def integerNode? (value : Int) : Option Node :=
  if Decimal.fitsInt64 value then some (.integer value) else none

/-- An integer in the given base, after the two characters that announce the base. -/
def readBased (base : Nat) (text : Text) : Option (Node × Text) := do
  let (digits, rest) ← readDigits (isDigitOf base) text
  let node ← integerNode? (digitsValue base digits)
  return (node, rest)

/-! ### Fractional numbers -/

/-- The least real number that rounds to infinity as a double: half a unit of the last place
above the largest double. -/
def doubleLimit : Nat :=
  Nat.pow 2 1024 - Nat.pow 2 970

/-- Whether `digits · 10 ^ exponent` rounds to a finite double. -/
def isFiniteDouble (digits : Text) (exponent : Int) : Bool :=
  let significant := digits.dropWhile (· == '0')
  let magnitude : Int := significant.length + exponent
  if significant.isEmpty || magnitude ≤ 308 then true
  else if 310 ≤ magnitude then false
  else
    let value := digitsValue 10 significant
    match exponent with
    | .ofNat up => value * Nat.pow 10 up < doubleLimit
    | .negSucc down => value < doubleLimit * Nat.pow 10 (down + 1)

/-- A sign, if there is one: whether it is a minus, and the text after it. -/
def readSign : Text → Bool × Text
  | '+' :: rest => (false, rest)
  | '-' :: rest => (true, rest)
  | text => (false, text)

/-- A fraction, from its point on: its digits. None stands for no fraction. -/
def readFraction : Text → Option (Option Text × Text)
  | '.' :: rest => (readDigits Char.isDigit rest).map fun reading => (some reading.1, reading.2)
  | text => some (none, text)

/-- An exponent, from its letter on. None stands for no exponent. -/
def readExponent : Text → Option (Option Int × Text)
  | [] => some (none, [])
  | c :: rest =>
    if c == 'e' || c == 'E' then do
      let (negative, rest) := readSign rest
      let (digits, rest) ← readDigits Char.isDigit rest
      let value : Int := digitsValue 10 digits
      return (some (if negative then -value else value), rest)
    else some (none, c :: rest)

/-- A decimal number after its sign. -/
def readDecimal (negative : Bool) (text : Text) : Option (Node × Text) := do
  let (whole, rest) ← readWhole text
  let (fraction, rest) ← readFraction rest
  let (exponent, rest) ← readExponent rest
  if fraction.isNone && exponent.isNone then
    let value : Int := digitsValue 10 whole
    let node ← integerNode? (if negative then -value else value)
    return (node, rest)
  else
    let fraction := fraction.getD []
    if negative || isFiniteDouble (whole ++ fraction) (exponent.getD 0 - fraction.length) then
      return (.float, rest)
    else none

/-- A number at the front of a text. -/
def readNumber : Text → Option (Node × Text)
  | '0' :: 'x' :: rest => readBased 16 rest
  | '0' :: 'o' :: rest => readBased 8 rest
  | '0' :: 'b' :: rest => readBased 2 rest
  | text =>
    match readSign text with
    | (_, 'i' :: 'n' :: 'f' :: rest) => some (.float, rest)
    | (_, 'n' :: 'a' :: 'n' :: rest) => some (.float, rest)
    | (negative, rest) => readDecimal negative rest

end ExportManifest.Toml
