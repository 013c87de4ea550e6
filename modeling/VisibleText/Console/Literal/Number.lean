import VisibleText.Console.Literal.Fault
import VisibleText.Text.Letter
import VisibleText.Text.Search

/-!
# Numbers of literal values

A number is a whole one, in base ten or behind the letter of another base, or a real or an
imaginary one, in base ten. Its digits may have single underscores between them. Each
reader takes the text from where its part of the number starts, and leaves what follows.
-/

set_option autoImplicit false

namespace VisibleText.Console.Literal

/-- A number as it is written. -/
inductive Number where
  | whole (value : Nat)
  /-- a whole number of so many digits that it is not read -/
  | long (digits : Nat)
  | real
  | imaginary
deriving DecidableEq

/-- What reading a number gives: the number and what follows it. -/
abbrev NumberRead := Except WordFault (Number × Text)

/-- Digits that may have single underscores between them, and what follows. An underscore
without a digit behind it makes the number improper. -/
def digitRun (isDigit : CodePoint → Bool) (fault : WordFault) :
    Text → Except WordFault (Text × Text)
  | [] => .ok ([], [])
  | c :: t =>
    if c = .char '_' then
      if t.head?.any isDigit then digitRun isDigit fault t else .error fault
    else if isDigit c then do
      let (digits, rest) ← digitRun isDigit fault t
      return (c :: digits, rest)
    else .ok ([], c :: t)

/-- Whether a code point may stand in a name. Those outside ASCII are looked at when the
whole name is read. -/
def isNamePart (c : CodePoint) : Bool :=
  let n := c.val
  c.isAsciiDigit || (0x41 ≤ n && n ≤ 0x5A) || (0x61 ≤ n && n ≤ 0x7A) || n == 0x5F || 0x80 ≤ n

/-- The names that may follow a number without a blank before them. -/
def namesBehindNumbers : List Text := ["and", "else", "for", "not", "or"].map text

/-- The beginnings of names that may follow a number without a blank before them. -/
def beginningsBehindNumbers : List Text := ["if", "in", "is"].map text

/-- Whether a text starts with a name that may follow a number without a blank before it. -/
def startsBehindNumber (rest : Text) : Bool :=
  namesBehindNumbers.contains (rest.takeWhile isNamePart) ||
    beginningsBehindNumbers.any fun name => rest.startsWith name

/-- Whether a number may end before a text. -/
def mayEndNumber (rest : Text) : Bool :=
  !rest.head?.any (fun c => isNamePart c && c.val < 0x80) || startsBehindNumber rest

/-- Only some names may follow a number without a blank before them. -/
def endNumber (kind : String) (number : Number) (rest : Text) : NumberRead :=
  if mayEndNumber rest then .ok (number, rest) else .error (.number kind)

/-- The number that digits write in a base. -/
def digitsValue (base : Nat) (digits : Text) : Nat :=
  digits.foldl (fun n c => n * base + c.hexValue?.getD 0) 0

/-! ## Numbers in other bases -/

/-- A base of numbers that are written behind a letter. -/
structure Base where
  size : Nat
  kind : String

/-- The bases, by the letter behind the zero. -/
def bases : List (Char × Base) :=
  [ ('x', ⟨16, "hexadecimal"⟩), ('X', ⟨16, "hexadecimal"⟩), ('o', ⟨8, "octal"⟩),
    ('O', ⟨8, "octal"⟩), ('b', ⟨2, "binary"⟩), ('B', ⟨2, "binary"⟩) ]

/-- Whether a code point is a digit in a base. -/
def Base.isDigit (base : Base) (c : CodePoint) : Bool := c.hexValue?.any (· < base.size)

/-- The fault of a number in a base: a decimal digit that the base does not have is named. -/
def Base.fault (base : Base) (c : Option CodePoint) : WordFault :=
  match c with
  | some d => if d.isAsciiDigit then .digit d base.kind else .number base.kind
  | none => .number base.kind

/-- The digits of a number in a base. An underscore stands before a digit of the base. -/
def Base.digits (base : Base) : Text → Except WordFault (Text × Text)
  | [] => .ok ([], [])
  | c :: t =>
    if c = .char '_' then
      if t.head?.any base.isDigit then base.digits t else .error (base.fault t.head?)
    else if base.isDigit c then do
      let (digits, rest) ← base.digits t
      return (c :: digits, rest)
    else .ok ([], c :: t)

/-- A number in a base, behind its letter. -/
def Base.read (base : Base) (t : Text) : NumberRead := do
  let (digits, rest) ← base.digits t
  if digits.isEmpty then .error (base.fault rest.head?)
  else if mayEndNumber rest then return (.whole (digitsValue base.size digits), rest)
  else .error (base.fault rest.head?)

/-! ## Numbers in base ten -/

/-- The fault of a number in base ten. -/
def decimalFault : WordFault := .number "decimal"

/-- The digits of a fraction or an exponent. -/
def decimalDigits (t : Text) : Except WordFault (Text × Text) :=
  if t.head?.any CodePoint.isAsciiDigit then digitRun CodePoint.isAsciiDigit decimalFault t
  else .ok ([], t)

/-- The fraction that a text starts with, and what follows it. -/
def fraction (t : Text) : Except WordFault (Bool × Text) :=
  match t with
  | .char '.' :: rest => do return (true, (← decimalDigits rest).2)
  | t => .ok (false, t)

/-- What stands behind the whole digits or the fraction of a number. -/
inductive Exponent where
  | absent
  | present
  /-- the number ends before a name that starts like an exponent -/
  | name

/-- The exponent that a text starts with, and what follows it. -/
def exponent (t : Text) : Except WordFault (Exponent × Text) :=
  match t with
  | c :: rest =>
    if c.isAmong ['e', 'E'] then
      let digits :=
        match rest with
        | .char '+' :: rest => rest
        | .char '-' :: rest => rest
        | rest => rest
      if digits.head?.any CodePoint.isAsciiDigit then do
        return (.present, (← decimalDigits digits).2)
      else if startsBehindNumber t then .ok (.name, t)
      else .error decimalFault
    else .ok (.absent, t)
  | [] => .ok (.absent, t)

/-- The most digits of a whole number. -/
def mostDigits : Nat := 4300

/-- The whole number that some digits are. -/
def wholeNumber (digits : Text) : Number :=
  if mostDigits < digits.length && digits.head? != some (.char '0') then .long digits.length
  else .whole (digitsValue 10 digits)

/-- The whole number that some digits are: it may start with a zero only if it is zero. -/
def endWhole (digits rest : Text) : NumberRead :=
  if digits.head? = some (.char '0') && digits.any (· != .char '0') then .error .leadingZeros
  else endNumber "decimal" (wholeNumber digits) rest

/-- A number in base ten. Before a name, zeros may stand in front of any number. -/
def readDecimal (t : Text) : NumberRead := do
  let (whole, rest) ← decimalDigits t
  let (hasFraction, rest) ← fraction rest
  let (exponent, rest) ← exponent rest
  match exponent, rest with
  | .name, rest =>
    let isReal := hasFraction ||
      (whole.head? == some (.char '0') && whole.any (· != .char '0'))
    return (if isReal then .real else wholeNumber whole, rest)
  | _, .char 'j' :: rest => endNumber "imaginary" .imaginary rest
  | _, .char 'J' :: rest => endNumber "imaginary" .imaginary rest
  | .present, rest => endNumber "decimal" .real rest
  | .absent, rest =>
    if hasFraction then endNumber "decimal" .real rest else endWhole whole rest

/-- The number that a text starts with. -/
def readNumber (t : Text) : NumberRead :=
  match t with
  | .char '0' :: .char c :: rest =>
    match bases.lookup c with
    | some base => base.read rest
    | none => readDecimal t
  | t => readDecimal t

end VisibleText.Console.Literal
