/-
**Patterns for the values of fields.**

A directive of a log filter may ask that a field have a value that matches a pattern. Such a
directive concerns no event, so all that counts is whether a text is a pattern: a number, or a
regular expression that an automaton can decide.

The regular expressions have alternatives, groups, classes in brackets, the marks `?`, `*` and `+`
for repetition, and escapes. A count in braces cannot be closed inside a directive, and word
boundaries need more than an automaton, so neither is admitted. `Pattern.isRegular` goes through
the text from left to right, with the number of groups that are open and whether what stands just
before can be repeated.
-/

import ExportManifest.Text.Alphanumeric
import ExportManifest.Text.Decimal
import ExportManifest.Text.Hexadecimal

namespace ExportManifest.Pattern

/-! ### Escapes -/

/-- What stands for characters: one code point, or a whole class of them. -/
inductive Item
  | code (point : Nat)
  | category
deriving DecidableEq, Repr

/-- The code points with a letter of their own. -/
def letterCodes : List (Char × Nat) :=
  [('a', 0x07), ('f', 0x0c), ('n', 0x0a), ('r', 0x0d), ('t', 0x09), ('v', 0x0b)]

/-- The code point written with the given number of hexadecimal digits, and the rest. -/
def hexCode? (digits : Nat) (text : Text) : Option (Item × Text) :=
  let written := text.take digits
  if written.length = digits then
    (written.mapM Hexadecimal.value?).bind fun values =>
      let point := values.foldl (fun before value => before * 16 + value) 0
      if point.isValidChar then some (.code point, text.drop digits) else none
  else none

/-- What an escape stands for, given the text after its backslash, and the rest. -/
def escape? : Text → Option (Item × Text)
  | [] => none
  | 'x' :: rest => hexCode? 2 rest
  | 'u' :: rest => hexCode? 4 rest
  | 'U' :: rest => hexCode? 8 rest
  | c :: rest =>
    if c = 'p' ∨ c = 'P' then
      match rest with
      | [] => none
      | name :: rest =>
        if "CLMNPSZclmnpsz".toList.contains name then some (.category, rest) else none
    else if "dDsSwW".toList.contains c then some (.category, rest)
    else
      match letterCodes.lookup c with
      | some point => some (.code point, rest)
      | none =>
        if 0x80 ≤ c.toNat || c.isAlphanum || c = '<' || c = '>' then none
        else some (.code c.toNat, rest)

/-! ### Classes in brackets -/

/-- The names of the classes written `[:name:]`. -/
def classNames : List Text :=
  ["alnum", "alpha", "ascii", "blank", "cntrl", "digit", "graph", "lower", "print", "punct",
    "space", "upper", "word", "xdigit"].map String.toList

/-- The text after a class written `[:name:]` or `[:^name:]`, given the text after its `[`. -/
def afterNamedClass? : Text → Option Text
  | ':' :: rest =>
    let rest := if rest.head? = some '^' then rest.drop 1 else rest
    match rest.dropWhile (· != ':') with
    | ':' :: ']' :: after =>
      if classNames.contains (rest.takeWhile (· != ':')) then some after else none
    | _ => none
  | _ => none

/-- The text after the opening of a class, given the text after its `[`: at the front `^` negates,
and then hyphens, or one `]`, stand for themselves. -/
def afterOpening (text : Text) : Text :=
  let rest := if text.head? = some '^' then text.drop 1 else text
  match rest with
  | ']' :: after => after
  | _ => rest.dropWhile (· == '-')

/-- An item of a class, and the rest. -/
def item? : Text → Option (Item × Text)
  | [] => none
  | '\\' :: rest => escape? rest
  | c :: rest => some (.code c.toNat, rest)

/-- Whether two items are the ends of a range. -/
def isRange : Item → Item → Bool
  | .code first, .code last => first ≤ last
  | _, _ => false

/-- The text after a class, given the text after its opening and the number of classes around it.
The fuel bounds the items. -/
def afterClass? : Nat → Nat → Text → Option Text
  | 0, _, _ => none
  | fuel + 1, around, text =>
    match text with
    | [] => none
    | ']' :: rest =>
      match around with
      | 0 => some rest
      | around + 1 => afterClass? fuel around rest
    | '&' :: '&' :: rest => afterClass? fuel around rest
    | '-' :: '-' :: rest => afterClass? fuel around rest
    | '~' :: '~' :: rest => afterClass? fuel around rest
    | '[' :: rest =>
      match afterNamedClass? rest with
      | some after => afterClass? fuel around after
      | none => afterClass? fuel (around + 1) (afterOpening rest)
    | _ =>
      match item? text with
      | none => none
      | some (first, rest) =>
        match rest with
        | '-' :: ']' :: _ => afterClass? fuel around rest
        | '-' :: '-' :: _ => afterClass? fuel around rest
        | '-' :: later =>
          match item? later with
          | some (last, after) =>
            if isRange first last then afterClass? fuel around after else none
          | none => none
        | _ => afterClass? fuel around rest

/-! ### Groups -/

/-- Whether a text is the name of a group. -/
def isGroupName : Text → Bool
  | [] => false
  | c :: rest =>
    (c = '_' || Text.isAlphanumeric c && !c.isDigit) &&
      rest.all fun c => Text.isAlphanumeric c || ['_', '.', '[', ']'].contains c

/-- Whether a text sets flags: each at most once, and at most one hyphen, not at the end. -/
def isFlags (text : Text) : Bool :=
  text.all ("imsUuRx-".toList.contains ·) && decide text.Nodup && text.getLast? != some '-'

/-- What the text after `(?` opens. -/
inductive Opening
  /-- A group, with its name if it has one. -/
  | group (name? : Option Text) (rest : Text)
  /-- Flags for what follows, and no group. -/
  | flags (rest : Text)

/-- What the text after `(?` opens, if it is well formed. -/
def opening? (text : Text) : Option Opening :=
  let named (text : Text) : Option Opening :=
    let name := text.takeWhile (· != '>')
    match text.dropWhile (· != '>') with
    | _ :: rest => if isGroupName name then some (.group (some name) rest) else none
    | [] => none
  match text with
  | 'P' :: '<' :: rest => named rest
  | '<' :: rest => named rest
  | _ =>
    let flags := text.takeWhile fun c => c != ')' && c != ':'
    match text.dropWhile fun c => c != ')' && c != ':' with
    | ':' :: rest => if isFlags flags then some (.group none rest) else none
    | ')' :: rest => if isFlags flags && !flags.isEmpty then some (.flags rest) else none
    | _ => none

/-! ### Regular expressions -/

/-- Whether the rest of a regular expression is well formed, given the names of the groups so far,
the number of groups that are open, and whether what stands just before can be repeated. The fuel
bounds the steps. -/
def goesOn : Nat → List Text → Nat → Bool → Text → Bool
  | _, _, groups, _, [] => groups = 0
  | 0, _, _, _, _ :: _ => false
  | fuel + 1, names, groups, repeatable, c :: rest =>
    if c = '(' then
      match rest with
      | '?' :: rest =>
        match opening? rest with
        | some (.group (some name) rest) =>
          !names.contains name && goesOn fuel (name :: names) (groups + 1) false rest
        | some (.group none rest) => goesOn fuel names (groups + 1) false rest
        | some (.flags rest) => goesOn fuel names groups false rest
        | none => false
      | _ => goesOn fuel names (groups + 1) false rest
    else if c = ')' then groups ≠ 0 && goesOn fuel names (groups - 1) true rest
    else if c = '|' then goesOn fuel names groups false rest
    else if c = '?' ∨ c = '*' ∨ c = '+' then repeatable && goesOn fuel names groups true rest
    else if c = '\x7b' then false
    else if c = '[' then
      match afterClass? rest.length 0 (afterOpening rest) with
      | some rest => goesOn fuel names groups true rest
      | none => false
    else if c = '\\' then
      match rest with
      | 'A' :: rest => goesOn fuel names groups true rest
      | 'z' :: rest => goesOn fuel names groups true rest
      | _ =>
        match escape? rest with
        | some (_, rest) => goesOn fuel names groups true rest
        | none => false
    else goesOn fuel names groups true rest

/-- Whether a text is a regular expression. -/
def isRegular (text : Text) : Bool :=
  goesOn text.length [] 0 false text

/-! ### Numbers -/

/-- The text after an optional sign. -/
def unsigned : Text → Text
  | '+' :: rest => rest
  | '-' :: rest => rest
  | text => text

/-- Whether a text is empty or a power of ten, as it ends a decimal fraction. -/
def isExponent : Text → Bool
  | [] => true
  | c :: rest => (c = 'e' || c = 'E') && (Decimal.toNat? (unsigned rest)).isSome

/-- Whether a text is a decimal fraction with an optional sign, an infinity or not a number. -/
def isNumber (text : Text) : Bool :=
  let body := unsigned text
  let whole := body.takeWhile Char.isDigit
  let rest := body.dropWhile Char.isDigit
  ["inf".toList, "infinity".toList, "nan".toList].contains (body.map Char.toLower) ||
    match rest with
    | '.' :: rest =>
      (!whole.isEmpty || rest.head?.any Char.isDigit) && isExponent (rest.dropWhile Char.isDigit)
    | _ => !whole.isEmpty && isExponent rest

/-- Whether a text is a pattern. -/
def isWellFormed (text : Text) : Bool :=
  isNumber text || isRegular text

end ExportManifest.Pattern
