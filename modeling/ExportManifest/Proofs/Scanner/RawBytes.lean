/-
**A scan sees its bytes.**

A source need not be UTF-8. The grammar of lines and declarations names only ASCII characters, so it
can be run on the bytes themselves: on the parts between the bytes `0x0a`, with classes of bytes in
place of classes of characters. Running it on bytes and then reading the parts it cut out, with
U+FFFD for what is ill-formed, is the same as reading first and running it on the text.

* `Raw.lines`, `RawSignature.parse?`, `RawExtraction.ofLines`: the grammar on bytes.
* `lines_decodeLossy`: the lines of the text are the lines of the bytes, each read on its own.
* `parse?_decodeLossy`: a signature of the text is a signature of the bytes, field by field.
* `extraction_of_raw_bytes`: **the functions and the skipped lines of a text are those of its
  bytes**, for every macro of ASCII characters.
-/

import ExportManifest.Proofs.Scanner.Passes
import ExportManifest.Proofs.Text.Lossy

namespace ExportManifest

/-! ### The grammar on bytes -/

namespace Raw

/-- The lines of a byte string: its parts between the bytes `0x0a`. One `0x0d` at the end of a part
that `0x0a` ended is left out, and nothing behind the last `0x0a` is no line. -/
def lines (bytes : List UInt8) : List (List UInt8) :=
  let parts := bytes.splitOn 0x0a
  parts.dropLast.map (withoutFinal 0x0d) ++ parts.getLast?.toList.filter (· ≠ [])

/-- Space or tab. -/
def isGap (byte : UInt8) : Bool :=
  byte == 0x20 || byte == 0x09

/-- Space, tab, newline, form feed or carriage return. -/
def isAsciiBlank (byte : UInt8) : Bool :=
  byte == 0x20 || byte == 0x09 || byte == 0x0a || byte == 0x0c || byte == 0x0d

/-- Whether a byte can stand in a return type: it is no gap and no `(`. -/
def isTypeByte (byte : UInt8) : Bool :=
  !(isGap byte || byte == 0x28)

/-- Whether a byte can stand in a name: it is no space and no `(`. -/
def isNameByte (byte : UInt8) : Bool :=
  !(byte == 0x20 || byte == 0x28)

end Raw

/-- One declared function, as the bytes of its parts. -/
structure RawSignature where
  name : List UInt8
  returnType : List UInt8
  args : List UInt8
deriving DecidableEq

namespace RawSignature

/-- The arguments at the start of some bytes: `(`, then everything before the first `)`. -/
def arguments? : List UInt8 → Option (List UInt8)
  | 0x28 :: body => if body.contains 0x29 then some (body.takeWhile (· != 0x29)) else none
  | _ => none

/-- The name and the arguments at the start of some bytes. -/
def nameAndArguments? (bytes : List UInt8) : Option (List UInt8 × List UInt8) :=
  let name := bytes.takeWhile Raw.isNameByte
  if name.isEmpty then none
  else
    (arguments? ((bytes.dropWhile Raw.isNameByte).dropWhile Raw.isAsciiBlank)).map fun args =>
      (name, args)

/-- The signature in the bytes that follow the macro on a line. -/
def parse? (rest : List UInt8) : Option RawSignature :=
  let declaration := rest.dropWhile Raw.isGap
  let returnType := declaration.takeWhile Raw.isTypeByte
  let separated := declaration.dropWhile Raw.isTypeByte
  if returnType.isEmpty || !separated.head?.any Raw.isAsciiBlank then none
  else
    (nameAndArguments? (separated.dropWhile Raw.isAsciiBlank)).map fun named =>
      { name := named.1, returnType := returnType, args := named.2 }

/-- The signature with its parts read as text. -/
def read (raw : RawSignature) : Signature :=
  { name := Utf8.decodeLossy raw.name
    returnType := Utf8.decodeLossy raw.returnType
    args := Utf8.decodeLossy raw.args }

end RawSignature

/-- What the lines of a byte string declare. -/
structure RawExtraction where
  functions : List RawSignature
  skipped : List Nat

/-- Reads the lines of a byte string, numbered from 1: a line that begins with the bytes of the
macro holds a signature behind it, or is skipped. -/
def RawExtraction.ofLines (exportMacro : List UInt8) (lines : List (List UInt8)) : RawExtraction :=
  { functions := lines.filterMap fun line =>
      (exportMacro.isPrefixOf? line).bind RawSignature.parse?
    skipped := ((lines.zipIdx 1).filter fun numbered =>
      (exportMacro.isPrefixOf? numbered.1).any fun rest => (RawSignature.parse? rest).isNone).map
        Prod.snd }

open Utf8

/-! ### Lines -/

namespace Raw

theorem splitOn_free {bytes : List UInt8} (free : 0x0a ∉ bytes) :
    ∀ byte ∈ bytes, (byte == 0x0a) = false := by
  intro byte member
  exact beq_eq_false_iff_ne.mpr fun same => free (same ▸ member)

theorem lines_unbroken {line : List UInt8} (free : 0x0a ∉ line) :
    lines line = if line = [] then [] else [line] := by
  unfold lines
  rw [List.splitOn_eq_splitOnP, List.splitOnP_eq_singleton (splitOn_free free)]
  by_cases empty : line = [] <;> simp [empty]

theorem lines_terminated {line : List UInt8} (free : 0x0a ∉ line) (later : List UInt8) :
    lines (line ++ 0x0a :: later) = withoutFinal 0x0d line :: lines later := by
  have parts : (line ++ 0x0a :: later).splitOn 0x0a = line :: later.splitOn 0x0a := by
    rw [List.splitOn_eq_splitOnP, List.splitOn_eq_splitOnP,
      List.splitOnP_append_cons_of_forall_mem (splitOn_free free) 0x0a rfl]
  unfold lines
  rw [parts]
  simp only
  rw [List.dropLast_cons_of_ne_nil (List.splitOn_ne_nil _ _),
    List.getLast?_cons_of_ne_nil (List.splitOn_ne_nil _ _)]
  rfl

end Raw

/-- **The lines of a text are the lines of its bytes**, each read on its own. -/
theorem lines_decodeLossy (bytes : List UInt8) :
    (decodeLossy bytes).lines = (Raw.lines bytes).map decodeLossy := by
  induction bytes using breakInduction (0x0a : UInt8) with
  | last line free =>
    have readFree : '\n' ∉ decodeLossy line := fun newline =>
      free ((mem_decodeLossy_iff 0x0a (by decide)).mp newline)
    rw [Text.lines_unbroken readFree, Raw.lines_unbroken free]
    by_cases empty : line = []
    · rw [if_pos empty, if_pos (decodeLossy_eq_nil_iff.mpr empty)]
      rfl
    · rw [if_neg empty, if_neg fun readEmpty => empty (decodeLossy_eq_nil_iff.mp readEmpty)]
      rfl
  | next line rest free ih =>
    have readFree : '\n' ∉ decodeLossy line := fun newline =>
      free ((mem_decodeLossy_iff 0x0a (by decide)).mp newline)
    have cut : decodeLossy (line ++ 0x0a :: rest) = decodeLossy line ++ '\n' :: decodeLossy rest :=
      decodeLossy_append_ascii line (by decide) rest
    have returns : decodeLossy (withoutFinal 0x0d line) = withoutFinal '\r' (decodeLossy line) :=
      decodeLossy_withoutFinal (by decide) line
    rw [cut, Text.lines_terminated readFree, Raw.lines_terminated free, ih, List.map_cons, returns]

/-! ### Signatures -/

theorem isGap_counterpart : Counterpart Text.isGap Raw.isGap false :=
  (Counterpart.single ' ' 0x20 (by decide) rfl).or (.single '\t' 0x09 (by decide) rfl)

theorem isAsciiBlank_counterpart : Counterpart Text.isAsciiBlank Raw.isAsciiBlank false :=
  ((isGap_counterpart.or (.single '\n' 0x0a (by decide) rfl)).or
    (.single '\x0c' 0x0c (by decide) rfl)).or (.single '\r' 0x0d (by decide) rfl)

theorem isTypeChar_counterpart : Counterpart Signature.isTypeChar Raw.isTypeByte true :=
  (isGap_counterpart.or (.single '(' 0x28 (by decide) rfl)).not

theorem isNameChar_counterpart : Counterpart Signature.isNameChar Raw.isNameByte true :=
  ((Counterpart.single ' ' 0x20 (by decide) rfl).or (.single '(' 0x28 (by decide) rfl)).not

theorem noClose_counterpart : Counterpart (· != ')') (· != 0x29) true :=
  (Counterpart.single ')' 0x29 (by decide) rfl).not

theorem isEmpty_decodeLossy (bytes : List UInt8) : (decodeLossy bytes).isEmpty = bytes.isEmpty := by
  rw [Bool.eq_iff_iff, List.isEmpty_iff, List.isEmpty_iff, decodeLossy_eq_nil_iff]

theorem arguments?_decodeLossy (bytes : List UInt8) :
    Signature.arguments? (decodeLossy bytes) = (RawSignature.arguments? bytes).map decodeLossy := by
  cases bytes with
  | nil => rfl
  | cons byte rest =>
    by_cases opens : byte = 0x28
    · subst opens
      have read : decodeLossy (0x28 :: rest) = '(' :: decodeLossy rest :=
        decodeLossy_ascii_cons (by decide) rest
      have closes : (decodeLossy rest).contains ')' = rest.contains 0x29 := by
        rw [Bool.eq_iff_iff, List.contains_iff_mem, List.contains_iff_mem]
        exact mem_decodeLossy_iff 0x29 (by decide)
      rw [read, Signature.arguments?, RawSignature.arguments?, closes, noClose_counterpart.takeWhile]
      split <;> rfl
    · obtain ⟨c, text, read, same⟩ :=
        (Counterpart.single '(' 0x28 (by decide) rfl).head byte rest
      have other : c ≠ '(' := by
        rw [beq_eq_false_iff_ne.mpr opens] at same
        exact beq_eq_false_iff_ne.mp same
      have refused : Signature.arguments? (c :: text) = none := by
        unfold Signature.arguments?
        split
        · rename_i equal
          exact absurd (List.cons.inj equal).1 other
        · rfl
      have rawRefused : RawSignature.arguments? (byte :: rest) = none := by
        unfold RawSignature.arguments?
        split
        · rename_i equal
          exact absurd (List.cons.inj equal).1 opens
        · rfl
      rw [read, refused, rawRefused]
      rfl

theorem nameAndArguments?_decodeLossy (bytes : List UInt8) :
    Signature.nameAndArguments? (decodeLossy bytes) =
      (RawSignature.nameAndArguments? bytes).map (Prod.map decodeLossy decodeLossy) := by
  unfold Signature.nameAndArguments? RawSignature.nameAndArguments?
  simp only
  rw [isNameChar_counterpart.takeWhile, isNameChar_counterpart.dropWhile,
    isAsciiBlank_counterpart.dropWhile, isEmpty_decodeLossy, arguments?_decodeLossy]
  split
  · rfl
  · rw [Option.map_map, Option.map_map]
    rfl

/-- **A signature of a text is a signature of its bytes**, field by field. -/
theorem parse?_decodeLossy (bytes : List UInt8) :
    Signature.parse? (decodeLossy bytes) = (RawSignature.parse? bytes).map RawSignature.read := by
  unfold Signature.parse? RawSignature.parse?
  simp only
  rw [isGap_counterpart.dropWhile, isTypeChar_counterpart.takeWhile,
    isTypeChar_counterpart.dropWhile, isAsciiBlank_counterpart.any_head?,
    isAsciiBlank_counterpart.dropWhile, isEmpty_decodeLossy, nameAndArguments?_decodeLossy]
  split
  · rfl
  · rw [Option.map_map, Option.map_map]
    rfl

/-! ### Sources -/

section Macro

variable {exportMacro : Text} (ascii : ∀ c ∈ exportMacro, c.toNat < 0x80) (line : List UInt8)

include ascii

theorem declared?_decodeLossy :
    declared? exportMacro (decodeLossy line) =
      (((encode exportMacro).isPrefixOf? line).bind RawSignature.parse?).map
        RawSignature.read := by
  rw [declared?, isPrefixOf?_decodeLossy ascii, Option.bind_map, Option.map_bind]
  exact congrArg (Option.bind _) (funext parse?_decodeLossy)

theorem unreadable_decodeLossy :
    unreadable exportMacro (decodeLossy line) =
      ((encode exportMacro).isPrefixOf? line).any fun rest =>
        (RawSignature.parse? rest).isNone := by
  rw [unreadable, isPrefixOf?_decodeLossy ascii, Option.any_map]
  refine congrArg (fun test => Option.any test _) (funext fun rest => ?_)
  show (Signature.parse? (decodeLossy rest)).isNone = (RawSignature.parse? rest).isNone
  rw [parse?_decodeLossy, Option.isNone_map]

end Macro

/-- **Bytes that are not UTF-8 do not matter to the grammar.** Whatever the bytes, the lines of the
text read from them are the lines of the bytes, each read on its own. For every macro of ASCII
characters, extraction skips the lines that it skips on the bytes, and finds the functions that it
finds on the bytes, in the same order, with each field read from its bytes. -/
theorem extraction_of_raw_bytes (bytes : List UInt8) (exportMacro : Text)
    (ascii : ∀ c ∈ exportMacro, c.toNat < 0x80) :
    let read := Extraction.ofLines exportMacro (decodeLossy bytes).lines
    let raw := RawExtraction.ofLines (encode exportMacro) (Raw.lines bytes)
    (decodeLossy bytes).lines = (Raw.lines bytes).map decodeLossy ∧
      read.skipped = raw.skipped ∧ read.functions = raw.functions.map RawSignature.read := by
  intro read raw
  have lines := lines_decodeLossy bytes
  refine ⟨lines, ?_, ?_⟩
  · show (Extraction.ofLines exportMacro (decodeLossy bytes).lines).skipped = raw.skipped
    rw [skipped_ofLines, lines, List.zipIdx_map, List.filter_map, List.map_map]
    simp only [Function.comp_def, Prod.map_fst, Prod.map_snd, id,
      unreadable_decodeLossy ascii]
    rfl
  · show (Extraction.ofLines exportMacro (decodeLossy bytes).lines).functions =
      raw.functions.map RawSignature.read
    rw [functions_ofLines, lines, List.filterMap_map]
    simp only [Function.comp_def, declared?_decodeLossy ascii]
    exact List.map_filterMap.symm

/-- Characters cut short before a space, before each parenthesis and before the end of a line, and
a carriage return before it. The second line begins with the macro and holds no signature. -/
theorem extraction_of_raw_bytes_truncated :
    let bytes : List UInt8 :=
      [0x41, 0x20, 0x69, 0xe2, 0x82, 0x20, 0x66, 0xf0, 0x28, 0xff, 0x29, 0xc3, 0x0d, 0x0a, 0x41,
        0xc3, 0x0a]
    let raw : RawExtraction :=
      { functions := [{ name := [0x66, 0xf0], returnType := [0x69, 0xe2, 0x82], args := [0xff] }]
        skipped := [2] }
    let read : Extraction :=
      { functions :=
          [{ name := ['f', '\ufffd'], returnType := ['i', '\ufffd'], args := ['\ufffd'] }]
        skipped := [2] }
    (∀ c ∈ ['A'], c.toNat < 0x80) ∧
      RawExtraction.ofLines (encode ['A']) (Raw.lines bytes) = raw ∧
      Extraction.ofLines ['A'] (decodeLossy bytes).lines = read := by
  intro bytes raw read
  have ascii : ∀ c ∈ ['A'], c.toNat < 0x80 := List.forall_mem_singleton.mpr (by decide)
  have found : RawExtraction.ofLines (encode ['A']) (Raw.lines bytes) = raw := by rfl
  obtain ⟨_, skipped, functions⟩ := extraction_of_raw_bytes bytes ['A'] ascii
  rw [found] at skipped functions
  exact ⟨ascii, found, Extraction.ext functions skipped⟩

end ExportManifest
