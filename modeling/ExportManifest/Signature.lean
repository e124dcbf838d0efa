/-
**Signatures of declared functions.**

A declaration line continues, after the export macro, with a return type, a gap, a name and a
parenthesised argument text. `Signature.parse?` reads that continuation greedily from left to
right and never goes back:

* gaps, then the return type: a non-empty run up to a gap or `(`;
* one or more ASCII blanks, then the name: a non-empty run up to a space or `(`;
* ASCII blanks, `(`, and the arguments: everything up to the first `)`.
-/

import ExportManifest.Text.Blank

namespace ExportManifest

/-- One declared function. -/
structure Signature where
  /-- The word before the parenthesis; a `*` in front of it belongs to it. -/
  name : Text
  /-- The word after the macro. -/
  returnType : Text
  /-- The text between the parentheses, untouched. -/
  args : Text
deriving DecidableEq, Repr

namespace Signature

/-- Whether a character can stand in a return type. -/
def isTypeChar (c : Char) : Bool :=
  !(Text.isGap c || c == '(')

/-- Whether a character can stand in a name. -/
def isNameChar (c : Char) : Bool :=
  !(c == ' ' || c == '(')

/-- The arguments at the start of a text: `(`, then everything before the first `)`. -/
def arguments? : Text → Option Text
  | '(' :: body => if body.contains ')' then some (body.takeWhile (· != ')')) else none
  | _ => none

/-- The name and the arguments at the start of a text. -/
def nameAndArguments? (text : Text) : Option (Text × Text) :=
  let name := text.takeWhile isNameChar
  if name.isEmpty then none
  else
    (arguments? ((text.dropWhile isNameChar).dropWhile Text.isAsciiBlank)).map fun args =>
      (name, args)

/-- The signature in the text that follows the macro on a line. -/
def parse? (rest : Text) : Option Signature :=
  let declaration := rest.dropWhile Text.isGap
  let returnType := declaration.takeWhile isTypeChar
  let separated := declaration.dropWhile isTypeChar
  if returnType.isEmpty || !separated.head?.any Text.isAsciiBlank then none
  else
    (nameAndArguments? (separated.dropWhile Text.isAsciiBlank)).map fun named =>
      { name := named.1, returnType := returnType, args := named.2 }

end Signature

end ExportManifest
