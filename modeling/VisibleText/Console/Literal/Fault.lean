import VisibleText.Bytes.Utf8
import VisibleText.Text.Printable

/-!
# Why a text is no literal value

A text may fail to write a literal value because of its form, and then the fault says what
is wrong with it: with its words (`WordFault`), with how the words are put together
(`GrammarFault`), or with a text that has values inside it (`FormattedFault`). It may also
have the form of a value that is no literal one, or that cannot be made, because a member
of a set or a key of a table cannot be looked up.
-/

set_option autoImplicit false

namespace VisibleText.Console

/-- What is wrong with the words of a text. -/
inductive WordFault where
  /-- a text between quotes does not end; the line is the one where reading stopped -/
  | unterminated (isTriple : Bool) (line : Nat)
  | neverClosed (opening : Char)
  | unmatched (closing : Char)
  /-- a bracket closes one of another kind, which may stand on an earlier line -/
  | mismatched (closing opening : Char) (line : Option Nat)
  | tooManyBrackets
  /-- a character that stands for nothing outside quotes -/
  | character (c : CodePoint)
  /-- a number that is not written as numbers of its kind are -/
  | number (kind : String)
  /-- a digit that numbers of its kind do not have -/
  | digit (d : CodePoint) (kind : String)
  | leadingZeros
  | longInteger (digits : Nat)
  /-- something stands behind a backslash outside quotes -/
  | continued
  /-- the text ends behind a backslash at the end of a line -/
  | endsContinued
  /-- a line is indented less than the one before, but like none before that -/
  | indentUnmatched
  /-- how lines are indented depends on the width of tabs -/
  | indentMixed
  | indentTooDeep
  /-- bytes hold a character outside ASCII -/
  | wideBytes
  /-- a place of a byte in which no proper escape is written -/
  | byteEscape (place : Nat)
  /-- an escape that breaks off, or that writes no character -/
  | escape (first last : Nat) (reason : String)
  /-- bytes stand next to a text -/
  | mixedTexts
deriving DecidableEq

/-- What is wrong with how words are put together. -/
inductive GrammarFault where
  | misplaced
  | indented
  | dedented
  /-- a name that was a command once stands before its values -/
  | missingParentheses (name : Text)
  | forgottenComma
  | elseExpected
  /-- a value of this kind cannot be given a name -/
  | namedValue (kind : String)
  | equalsSign
  /-- a value of this kind stands before an equals sign -/
  | assignedHere (kind : String)
  /-- something of this kind stands where a name has to -/
  | assigned (kind : String)
  | argumentAssigned
  | starBehindTable
  | bareGenerator
  | argumentBehindTable
  | argumentBehindNamed
  | starInComprehension
  | bareTarget
  | tableInComprehension
  | starInGroup
  | bareStarArgument
  | doubleStarInGroup
  | keyWithoutColon
  | keyWithoutValue
  | starAsValue
  | defaultExpected
  | parameterBehindDefault
  | parametersInGroup
  | nothingBeforeSlash
  | secondSlash
  | slashBehindStar
  | starBehindSlash
  | bareStar
  | starWithDefault
  | secondStar
  | doubleStarWithDefault
  | parameterBehindDoubleStar
deriving DecidableEq

/-- What is wrong with a text that has values inside it. -/
inductive FormattedFault where
  | singleBrace
  /-- a value inside is not closed by a brace -/
  | unclosed
  | nestedTooDeep
  | backslash
  | tooManyBrackets
  | comment
  | unmatched (bracket : Char)
  | mismatched (closing opening : Char)
  | unterminated
  /-- no value stands before this sign -/
  | missingBefore (sign : Char)
  | empty
  /-- how a value is written is none of the known ways -/
  | conversion
deriving DecidableEq

/-- Why a text is no literal value. -/
inductive LiteralFault where
  | word (fault : WordFault)
  | grammar (fault : GrammarFault)
  | formatted (fault : FormattedFault)
  /-- a fault of a value inside a text -/
  | within (fault : LiteralFault)
  /-- a fault of a value inside a text of which the place cannot be told: on a later line
  than the value starts on, it stands further left -/
  | unplaced
  /-- values stand in each other too deep for any to be read -/
  | tooDeep
  /-- values stand in each other too deep to be looked at -/
  | tooHigh
  /-- words that make a value, but not a literal one -/
  | malformed
  /-- a table that another one is put into is no literal value -/
  | absentKey
  /-- a value that cannot be looked up, of this kind -/
  | notKey (kind : String)
  /-- a whole number too large to have an imaginary one added -/
  | largeInteger
  | unencodable (fault : EncodeFault)
  | zeroByte
deriving DecidableEq

/-! ## Wordings -/

/-- The number of a code point, in at least four digits in base sixteen. -/
def numberName (c : CodePoint) : Text :=
  let digits := (Nat.toDigits 16 c.val).map Char.toUpper
  text "U+" ++ (List.replicate (4 - digits.length) '0' ++ digits).map CodePoint.char

/-- A character between single quotes. -/
def singleQuoted (c : Char) : Text := [.char '\'', .char c, .char '\'']

/-- The wording of a bracket that closes one of another kind. -/
def mismatch (closing opening : Char) : Text :=
  text "closing parenthesis " ++ singleQuoted closing ++
    text " does not match opening parenthesis " ++ singleQuoted opening

/-- The wording of a fault. -/
def WordFault.message : WordFault → Text
  | unterminated isTriple line =>
    text (if isTriple then "unterminated triple-quoted string literal (detected at line "
      else "unterminated string literal (detected at line ") ++ Text.ofNat line ++ text ")"
  | neverClosed opening => singleQuoted opening ++ text " was never closed"
  | unmatched closing => text "unmatched " ++ singleQuoted closing
  | mismatched closing opening line =>
    mismatch closing opening ++
      (line.map fun line => text " on line " ++ Text.ofNat line).getD []
  | tooManyBrackets => text "too many nested parentheses"
  | character c =>
    if c.isPrintable then
      text "invalid character '" ++ [c] ++ text "' (" ++ numberName c ++ text ")"
    else text "invalid non-printable character " ++ numberName c
  | number kind => text ("invalid " ++ kind ++ " literal")
  | digit d kind => text "invalid digit '" ++ [d] ++ text ("' in " ++ kind ++ " literal")
  | leadingZeros =>
    text <| "leading zeros in decimal integer literals are not permitted; " ++
      "use an 0o prefix for octal integers"
  | longInteger digits =>
    text "Exceeds the limit (4300 digits) for integer string conversion: value has " ++
      Text.ofNat digits ++ text (" digits; use sys.set_int_max_str_digits() to increase " ++
      "the limit - Consider hexadecimal for huge integer literals to avoid decimal " ++
      "conversion limits.")
  | continued => text "unexpected character after line continuation character"
  | endsContinued => text "unexpected EOF while parsing"
  | indentUnmatched => text "unindent does not match any outer indentation level"
  | indentMixed => text "inconsistent use of tabs and spaces in indentation"
  | indentTooDeep => text "too many levels of indentation"
  | wideBytes => text "bytes can only contain ASCII literal characters"
  | byteEscape place =>
    text "(value error) invalid \\x escape at position " ++ Text.ofNat place
  | escape first last reason =>
    text "(unicode error) 'unicodeescape' codec can't decode bytes in position " ++
      Text.ofNat first ++ text "-" ++ Text.ofNat last ++ text (": " ++ reason)
  | mixedTexts => text "cannot mix bytes and nonbytes literals"

/-- The wording of a fault. -/
def GrammarFault.message : GrammarFault → Text
  | misplaced => text "invalid syntax"
  | indented => text "unexpected indent"
  | dedented => text "unexpected unindent"
  | missingParentheses name =>
    text "Missing parentheses in call to '" ++ name ++ text "'. Did you mean " ++ name ++
      text "(...)?"
  | forgottenComma => text "invalid syntax. Perhaps you forgot a comma?"
  | elseExpected => text "expected 'else' after 'if' expression"
  | namedValue kind => text ("cannot use assignment expressions with " ++ kind)
  | equalsSign => text "invalid syntax. Maybe you meant '==' or ':=' instead of '='?"
  | assignedHere kind =>
    text ("cannot assign to " ++ kind ++ " here. Maybe you meant '==' instead of '='?")
  | assigned kind => text ("cannot assign to " ++ kind)
  | argumentAssigned =>
    text "expression cannot contain assignment, perhaps you meant \"==\"?"
  | starBehindTable => text "iterable argument unpacking follows keyword argument unpacking"
  | bareGenerator => text "Generator expression must be parenthesized"
  | argumentBehindTable => text "positional argument follows keyword argument unpacking"
  | argumentBehindNamed => text "positional argument follows keyword argument"
  | starInComprehension => text "iterable unpacking cannot be used in comprehension"
  | bareTarget => text "did you forget parentheses around the comprehension target?"
  | tableInComprehension => text "dict unpacking cannot be used in dict comprehension"
  | bareStarArgument => text "Invalid star expression"
  | starInGroup => text "cannot use starred expression here"
  | doubleStarInGroup => text "cannot use double starred expression here"
  | keyWithoutColon => text "':' expected after dictionary key"
  | keyWithoutValue => text "expression expected after dictionary key and ':'"
  | starAsValue => text "cannot use a starred expression in a dictionary value"
  | defaultExpected => text "expected default value expression"
  | parameterBehindDefault => text "non-default argument follows default argument"
  | parametersInGroup => text "Lambda expression parameters cannot be parenthesized"
  | nothingBeforeSlash => text "at least one argument must precede /"
  | secondSlash => text "/ may appear only once"
  | slashBehindStar => text "/ must be ahead of *"
  | starBehindSlash => text "expected comma between / and *"
  | bareStar => text "named arguments must follow bare *"
  | starWithDefault => text "var-positional argument cannot have default value"
  | secondStar => text "* argument may appear only once"
  | doubleStarWithDefault => text "var-keyword argument cannot have default value"
  | parameterBehindDoubleStar => text "arguments cannot follow var-keyword argument"

/-- The wording of a fault. -/
def FormattedFault.message : FormattedFault → Text
  | singleBrace => text "f-string: single '\x7d' is not allowed"
  | unclosed => text "f-string: expecting '\x7d'"
  | nestedTooDeep => text "f-string: expressions nested too deeply"
  | backslash => text "f-string expression part cannot include a backslash"
  | tooManyBrackets => text "f-string: too many nested parenthesis"
  | comment => text "f-string expression part cannot include '#'"
  | unmatched bracket => text "f-string: unmatched " ++ singleQuoted bracket
  | mismatched closing opening => text "f-string: " ++ mismatch closing opening
  | unterminated => text "f-string: unterminated string"
  | missingBefore sign => text "f-string: expression required before " ++ singleQuoted sign
  | empty => text "f-string: empty expression not allowed"
  | conversion =>
    text "f-string: invalid conversion character: expected 's', 'r', or 'a'"

namespace LiteralFault

/-- Whether a fault is one of the form. -/
def isOfForm : LiteralFault → Bool
  | word _ | grammar _ | formatted _ | within _ | zeroByte => true
  | unplaced | tooDeep | tooHigh | malformed | absentKey | notKey _ | largeInteger | unencodable _ => false

/-- The wording of a fault. -/
def message : LiteralFault → Text
  | word fault => fault.message
  | grammar fault => fault.message
  | formatted fault => fault.message
  | within fault => text "f-string: " ++ fault.message
  | unplaced => text "Negative size passed to PyUnicode_New"
  | tooDeep => []
  | tooHigh => text "maximum recursion depth exceeded during ast construction"
  | malformed => text "malformed node or string"
  | absentKey => text "malformed node or string: None"
  | notKey kind => text ("unhashable type: '" ++ kind ++ "'")
  | largeInteger => text "int too large to convert to float"
  | unencodable fault => fault.message
  | zeroByte => text "source code string cannot contain null bytes"

end LiteralFault

end VisibleText.Console
