import VisibleText.Json.Basic
import VisibleText.Text.Letter
import VisibleText.Text.Search

/-!
# Reading JSON

The reader accepts JSON as it is commonly read, which is a little more than the
standard: the words `NaN` and `Infinity` are numbers, a surrogate may stand alone in a
string, and of several members with one key the last value counts. A fault comes with
what is left of the text from the place of the fault on.
-/

set_option autoImplicit false

namespace VisibleText.Json

open VisibleText.Text (after?)

/-- What is wrong in a text that should be JSON. -/
inductive Fault where
  | byteOrderMark
  | value
  | propertyName
  | colon
  | comma
  | controlCharacter
  | unterminatedString
  | escape
  | unicodeEscape
  | extraData
  /-- an integer has too many digits -/
  | longInteger (digits : Nat)
  /-- an array or an object stands too deep in others -/
  | tooDeep (isObject : Bool)
deriving DecidableEq

/-- Whether a fault is one of the form of the text. Numbers that are too long and values
that are too deep are well formed, but are refused all the same. -/
def Fault.isOfForm : Fault → Bool
  | longInteger _ => false
  | tooDeep _ => false
  | _ => true

/-- The wording of a fault. -/
def Fault.message : Fault → String
  | byteOrderMark => "Unexpected UTF-8 BOM (decode using utf-8-sig)"
  | value => "Expecting value"
  | propertyName => "Expecting property name enclosed in double quotes"
  | colon => "Expecting ':' delimiter"
  | comma => "Expecting ',' delimiter"
  | controlCharacter => "Invalid control character at"
  | unterminatedString => "Unterminated string starting at"
  | escape => "Invalid \\escape"
  | unicodeEscape => "Invalid \\uXXXX escape"
  | extraData => "Extra data"
  | longInteger digits =>
    "Exceeds the limit (4300 digits) for integer string conversion: value has " ++ digits.repr ++
      " digits; use sys.set_int_max_str_digits() to increase the limit"
  | tooDeep isObject =>
    "maximum recursion depth exceeded while decoding a JSON " ++
      (if isObject then "object" else "array") ++ " from a unicode string"

/-- A fault, and what is left of the text from its place on. -/
structure Failure where
  fault : Fault
  left : Text

/-- What was read, and what is left of the text. -/
structure Taken (α : Type) where
  value : α
  left : Text

/-- Blanks between the parts of JSON. -/
def isGap (c : CodePoint) : Bool := c.isAmong [' ', '\t', '\n', '\r']

/-- A text without the blanks at its start. -/
def skipGap (t : Text) : Text := t.dropWhile isGap

/-! ## Strings -/

/-- The number that four hexadecimal digits write. -/
def fourHexDigits? : Text → Option (Nat × Text)
  | a :: b :: c :: d :: rest => do
    let a ← a.hexValue?
    let b ← b.hexValue?
    let c ← c.hexValue?
    let d ← d.hexValue?
    return (((a * 16 + b) * 16 + c) * 16 + d, rest)
  | _ => none

/-- The second half of a surrogate pair, written as an escape, when more of the text
follows it. The inner `none` says that the escape is no such half. -/
def lowHalf? (left : Text) : Except Failure (Option (Nat × Text)) :=
  match left with
  | .char '\\' :: .char 'u' :: rest =>
    if rest.length ≤ 4 then .ok none
    else
      match fourHexDigits? rest with
      | none => .error ⟨.unicodeEscape, .char 'u' :: rest⟩
      | some (n, rest) => .ok (if 0xDC00 ≤ n && n < 0xE000 then some (n, rest) else none)
  | _ => .ok none

/-- Reads what follows `\u`. `start` is the text from the letter on. -/
def readUnicodeEscape (start : Text) : Except Failure (Taken CodePoint) := do
  let digits := start.drop 1
  if digits.length ≤ 4 then .error ⟨.unicodeEscape, start⟩
  else
    match fourHexDigits? digits with
    | none => .error ⟨.unicodeEscape, start⟩
    | some (n, rest) =>
      let alone : CodePoint := (CodePoint.ofNat? n).getD .replacement
      if 0xD800 ≤ n && n < 0xDC00 then
        match ← lowHalf? rest with
        | some (low, rest) =>
          let pair := 0x10000 + (n - 0xD800) * 0x400 + (low - 0xDC00)
          return ⟨(CodePoint.ofNat? pair).getD .replacement, rest⟩
        | none => return ⟨alone, rest⟩
      else return ⟨alone, rest⟩

/-- The character that a letter after a backslash stands for. -/
def simpleEscape? : CodePoint → Option Char
  | .char '"' => some '"'
  | .char '\\' => some '\\'
  | .char '/' => some '/'
  | .char 'b' => some '\x08'
  | .char 'f' => some '\x0c'
  | .char 'n' => some '\n'
  | .char 'r' => some '\r'
  | .char 't' => some '\t'
  | _ => none

/-- Reads a string from behind its opening quote on; `start` is the text from that
quote on, and `read` is what has been read, in reverse. -/
def readStringFrom (start : Text) :
    (steps : Nat) → (read : Text) → Text → Except Failure (Taken Text)
  | 0, _, _ => .error ⟨.unterminatedString, start⟩
  | steps + 1, read, left =>
    match left with
    | [] => .error ⟨.unterminatedString, start⟩
    | .char '"' :: rest => .ok ⟨read.reverse, rest⟩
    | .char '\\' :: rest =>
      match rest with
      | [] => .error ⟨.unterminatedString, start⟩
      | .char 'u' :: _ => do
        let ⟨c, rest⟩ ← readUnicodeEscape rest
        readStringFrom start steps (c :: read) rest
      | c :: rest =>
        match simpleEscape? c with
        | some c => readStringFrom start steps (.char c :: read) rest
        | none => .error ⟨.escape, left⟩
    | c :: rest =>
      if c.val < 0x20 then .error ⟨.controlCharacter, left⟩
      else readStringFrom start steps (c :: read) rest

/-- Reads a string from its opening quote on. -/
def readString (left : Text) : Except Failure (Taken Text) :=
  readStringFrom left left.length [] (left.drop 1)

/-! ## Numbers -/

/-- The most digits that an integer may have. -/
def mostDigits : Nat := 4300

/-- The number that ASCII digits write. -/
def digitsValue (digits : Text) : Nat :=
  digits.foldl (fun n c => n * 10 + c.asciiDigitValue?.getD 0) 0

/-- Cuts off the whole part of a number: a zero, or digits that start with none. -/
def wholePart? (left : Text) : Option (Text × Text) :=
  match left with
  | .char '0' :: rest => some ([.char '0'], rest)
  | _ =>
    let (digits, rest) := left.span CodePoint.isAsciiDigit
    if digits.isEmpty then none else some (digits, rest)

/-- Cuts off the digits of a fraction, if there are any. -/
def fractionPart (left : Text) : Text × Text :=
  match left with
  | .char '.' :: rest =>
    let (digits, behind) := rest.span CodePoint.isAsciiDigit
    if digits.isEmpty then ([], left) else (digits, behind)
  | _ => ([], left)

/-- Cuts off an exponent, if there is one. -/
def exponentPart (left : Text) : Option Int × Text :=
  match left with
  | c :: rest =>
    if c.isAmong ['e', 'E'] then
      let (negative, rest) :=
        match rest with
        | .char '-' :: rest => (true, rest)
        | .char '+' :: rest => (false, rest)
        | rest => (false, rest)
      let (digits, rest) := rest.span CodePoint.isAsciiDigit
      if digits.isEmpty then (none, left)
      else
        let n : Int := digitsValue digits
        (some (if negative then -n else n), rest)
    else (none, left)
  | [] => (none, left)

/-- Reads a number. -/
def readNumber (left : Text) : Except Failure (Taken Json) :=
  let (negative, rest) :=
    match left with
    | .char '-' :: rest => (true, rest)
    | rest => (false, rest)
  match wholePart? rest with
  | none => .error ⟨.value, left⟩
  | some (whole, rest) =>
    let (fraction, rest) := fractionPart rest
    let (exponent, rest) := exponentPart rest
    if fraction.isEmpty && exponent.isNone then
      if mostDigits < whole.length then .error ⟨.longInteger whole.length, left⟩ else
      let n : Int := digitsValue whole
      .ok ⟨.int (if negative then -n else n), rest⟩
    else
      let power : Int := exponent.getD 0 - fraction.length
      .ok ⟨.float (.ofDecimal negative (digitsValue (whole ++ fraction)) power), rest⟩

/-- The values that are written as words. -/
def words : List (Text × Json) :=
  [(text "null", .null), (text "true", .bool true), (text "false", .bool false),
    (text "NaN", .float .nan), (text "Infinity", .float (.infinite false)),
    (text "-Infinity", .float (.infinite true))]

/-- Reads a word or a number. -/
def readScalar (left : Text) : Except Failure (Taken Json) :=
  match words.findSome? fun (word, value) => (after? word left).map fun rest => (value, rest) with
  | some (value, rest) => .ok ⟨value, rest⟩
  | none => readNumber left

/-! ## Values -/

/-- How deep arrays and objects may stand in each other: each of them takes one call. -/
def deepest : Nat := nestedCalls

mutual

/-- Reads a value. So many more arrays and objects may be opened around what is read. Every
call takes a part of the text before the next one of its kind, so twice the length of the
text bounds the steps. -/
def readValue : (steps room : Nat) → Text → Except Failure (Taken Json)
  | 0, _, left => .error ⟨.value, left⟩
  | steps + 1, room, left =>
    match left with
    | .char '"' :: _ => (readString left).map fun taken => ⟨.string taken.value, taken.left⟩
    | .char '[' :: rest =>
      if room = 0 then .error ⟨.tooDeep false, left⟩
      else
        match skipGap rest with
        | .char ']' :: rest => .ok ⟨.array [], rest⟩
        | rest =>
          (readItems steps (room - 1) rest).map fun taken => ⟨.array taken.value, taken.left⟩
    | .char '{' :: rest =>
      if room = 0 then .error ⟨.tooDeep true, left⟩
      else
        match skipGap rest with
        | .char '}' :: rest => .ok ⟨.object [], rest⟩
        | rest =>
          (readMembers steps (room - 1) [] rest).map fun taken =>
            ⟨.object taken.value, taken.left⟩
    | _ => readScalar left

/-- Reads the items of an array up to its end. -/
def readItems : (steps room : Nat) → Text → Except Failure (Taken (List Json))
  | 0, _, left => .error ⟨.value, left⟩
  | steps + 1, room, left => do
    let ⟨item, rest⟩ ← readValue steps room left
    match skipGap rest with
    | .char ']' :: rest => return ⟨[item], rest⟩
    | .char ',' :: rest =>
      let ⟨items, rest⟩ ← readItems steps room (skipGap rest)
      return ⟨item :: items, rest⟩
    | rest => .error ⟨.comma, rest⟩

/-- Reads the members of an object up to its end, behind the members already read. -/
def readMembers : (steps room : Nat) → Members → Text → Except Failure (Taken Members)
  | 0, _, _, left => .error ⟨.value, left⟩
  | steps + 1, room, members, left =>
    match left with
    | .char '"' :: _ => do
      let ⟨key, rest⟩ ← readString left
      match skipGap rest with
      | .char ':' :: rest =>
        let ⟨value, rest⟩ ← readValue steps room (skipGap rest)
        let members := Members.set key value members
        match skipGap rest with
        | .char '}' :: rest => return ⟨members, rest⟩
        | .char ',' :: rest => readMembers steps room members (skipGap rest)
        | rest => .error ⟨.comma, rest⟩
      | rest => .error ⟨.colon, rest⟩
    | _ => .error ⟨.propertyName, left⟩

end

/-- Reads a text that holds one value and nothing else. -/
def read (t : Text) : Except Failure Json :=
  if t.head? = some (.char '\uFEFF') then .error ⟨.byteOrderMark, t⟩
  else do
    let ⟨value, rest⟩ ← readValue (2 * t.length + 2) deepest (skipGap t)
    let rest := skipGap rest
    if rest.isEmpty then return value else .error ⟨.extraData, rest⟩

/-- The wording of a failure in a text, with its line, its column, and how many
characters come before it. A fault that is not one of the form has no place. -/
def Failure.message (t : Text) (f : Failure) : Text :=
  if !f.fault.isOfForm then text f.fault.message else
  let passed := t.take (t.length - f.left.length)
  let line := passed.count (.char '\n') + 1
  let column := (passed.reverse.takeWhile (· ≠ .char '\n')).length + 1
  text f.fault.message ++ text ": line " ++ Text.ofNat line ++ text " column " ++
    Text.ofNat column ++ text " (char " ++ Text.ofNat passed.length ++ text ")"

end VisibleText.Json
