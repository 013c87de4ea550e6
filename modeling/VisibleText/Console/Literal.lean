import VisibleText.Console.Literal.Formatted
import VisibleText.Console.Literal.Phrase
import VisibleText.Console.Literal.Reading
import VisibleText.Console.Literal.Expression
import VisibleText.Bytes.Utf8

/-!
# Literal values

A literal value is a number, a text, a run of bytes, one of a few names, or a collection
of literal values: a tuple between parentheses, or a set or a table between braces. Texts
next to each other are one text. A number may have a sign, and a real number may have an
imaginary one added to it. Literals stand in tags, which hold no square brackets, so there
are no lists.

Only whether a text writes a literal value matters here, and why it does not; the value
itself does not. A text is read as an expression first, so that what is wrong with one that
is no expression can be told.
-/

set_option autoImplicit false

namespace VisibleText.Console

namespace Literal

/-- A fault of a value that stands behind so many columns, as it is told of the text that the
value is in. Columns are told from the start of the value. -/
def insideRaised (shift : Nat) : Raised := fun column fault =>
  if column < shift then .unplaced else .within fault

/-- The height of the expression that a text inside another one is, or why it is none. The
texts in it may have values inside them too, down to some depth. -/
def insideHeight : (depth : Nat) → Text → Origin → Except LiteralFault Nat
  | 0, _, _ => .ok 1
  | depth + 1, e, origin => do
    let raised := insideRaised origin.shift
    let join : Join := fun latest => ValueSetting.join ⟨raised, latest, insideHeight depth⟩
    let es ← grammar.run join raised .starExpressions
      (.char '(' :: e ++ [.char ')', .char '\n']) origin
    return Expression.heightAmong es

/-- The greatest height that an expression may have to be looked at. -/
def greatestHeight : Nat := 2951

/-- The expression that a text writes. -/
def expression (t : Text) : Except LiteralFault Expression := do
  let raised : Raised := fun _ fault => fault
  let join : Join := fun latest => ValueSetting.join ⟨raised, latest, insideHeight t.length⟩
  match ← grammar.run join raised .whole t ⟨1, 0⟩ with
  | [e] => if greatestHeight < e.height then .error .tooHigh else return e
  | _ => .error (.grammar .misplaced)

end Literal

/-- Why a text without blanks at its ends writes no literal value, if it writes none. -/
def literalFault? (t : Text) : Option LiteralFault :=
  match t.encodeFault? with
  | some fault => some (.unencodable fault)
  | none =>
    if t.any (· == .char '\x00') then some .zeroByte
    else
      match Literal.expression t.withLineFeeds with
      | .error fault => some fault
      | .ok e =>
        match e.value with
        | .error fault => some fault
        | .ok _ => none

end VisibleText.Console
