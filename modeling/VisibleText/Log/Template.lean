import VisibleText.Json.Basic
import VisibleText.Json.Binary64
import VisibleText.Text.Case
import VisibleText.Text.Letter

/-!
# Templates of messages

A message may be a template with slots, which start with a percent sign and are filled
with values one after the other. A slot may ask for a sign, for a width, for padding and
for a number of digits, and its last letter says how the value is written. If the only
value is an object, a slot may name one of its members between parentheses.

A template that does not fit its values cannot be filled, and the first thing that does
not fit says why.
-/

set_option autoImplicit false

namespace VisibleText.Log

/-- What a slot asks for. -/
structure Slot where
  /-- the value stands at the left of its width -/
  left : Bool
  /-- a plus sign stands before a number that is not negative -/
  plus : Bool
  /-- a blank stands before a number that is not negative -/
  blank : Bool
  /-- a number is marked with its base, or keeps its point -/
  marked : Bool
  /-- a number is filled up with zeros -/
  zeros : Bool
  width : Nat
  digits : Option Nat
deriving Inhabited

/-- The slot that asks for nothing. -/
def Slot.plain : Slot where
  left := false
  plus := false
  blank := false
  marked := false
  zeros := false
  width := 0
  digits := none

/-- Why a template cannot be filled. -/
inductive TemplateFault where
  /-- a slot names a member, but the values are no object -/
  | noMembers
  /-- a slot names a member that is not there -/
  | missingMember (key : Text)
  /-- there are more slots than values -/
  | tooFewValues
  /-- there are more values than slots -/
  | tooManyValues
  /-- the template ends within a slot -/
  | unfinished
  /-- a slot ends in a letter that means nothing -/
  | unknownLetter
  /-- a width or a number of digits is written with too many digits -/
  | longSize
  /-- a value is not of the kind that a slot asks for -/
  | wrongKind
  /-- a value is no number, although its kind would do -/
  | notANumber
  /-- a value is outside the range of what a slot asks for -/
  | outOfRange
  /-- there is no room for so wide a text -/
  | noRoom
deriving DecidableEq

/-- The values that are left for the slots of a template. -/
structure Supply where
  values : List Json
  /-- the members that slots may name -/
  members : Option Json.Members

namespace Supply

/-- The values for a template. A single object that is not empty also lends its
members. -/
def ofValues : List Json → Supply
  | [.object (member :: members)] =>
    ⟨[.object (member :: members)], some (member :: members)⟩
  | values => ⟨values, none⟩

/-- Takes the next value. -/
def next (s : Supply) : Except TemplateFault (Json × Supply) :=
  match s.values with
  | [] => .error .tooFewValues
  | value :: values => .ok (value, { s with values := values })

/-- Puts the value of a member in the place of all values that are left. -/
def choose (s : Supply) (key : Text) : Except TemplateFault Supply :=
  match s.members with
  | none => .error .noMembers
  | some members =>
    match members.find? key with
    | none => .error (.missingMember key)
    | some value => .ok { s with values := [value] }

/-- Checks that everything that has to be used was used. -/
def finish (s : Supply) : Except TemplateFault Unit :=
  if s.values.isEmpty || s.members.isSome then .ok () else .error .tooManyValues

end Supply

/-! ## Writing values -/

/-- A text without a sign, filled up to the width of a slot. -/
def Slot.padded (slot : Slot) (t : Text) : Text :=
  let blanks := List.replicate (slot.width - t.length) (CodePoint.char ' ')
  if slot.left then t ++ blanks else blanks ++ t

/-- A number filled up to the width of a slot: its sign, the mark of its base, and its
digits. Zeros stand behind the sign and the mark. -/
def Slot.paddedNumber (slot : Slot) (negative : Bool) (mark digits : Text) : Text :=
  let sign :=
    text (if negative then "-" else if slot.plus then "+" else if slot.blank then " " else "")
  let size := sign.length + mark.length + digits.length
  if slot.zeros && !slot.left then
    sign ++ mark ++ List.replicate (slot.width - size) (.char '0') ++ digits
  else slot.padded (sign ++ mark ++ digits)

/-- The integer that a value is. -/
def integerValue : Json → Except TemplateFault Int
  | .int n => .ok n
  | .bool b => .ok (if b then 1 else 0)
  | _ => .error .wrongKind

/-- The integer that a value is, where any number will do. -/
def wholeNumber : Json → Except TemplateFault Int
  | .float .nan => .error .notANumber
  | .float (.infinite _) => .error .outOfRange
  | .float x => .ok x.truncated
  | value => integerValue value

/-- The binary64 number that a value is; an integer must be within their range. -/
def floatValue : Json → Except TemplateFault Binary64
  | .float x => .ok x
  | value => do
    let n ← integerValue value
    match Binary64.ofDecimal (n < 0) n.natAbs 0 with
    | .infinite _ => .error .outOfRange
    | x => .ok x

/-- An integer in some base, with at least the digits that a slot asks for. -/
def Slot.integer (slot : Slot) (base : Nat) (mark : String) (capital : Bool) (n : Int) : Text :=
  let digits := Nat.toDigits base n.natAbs
  let digits := List.replicate (slot.digits.getD 0 - digits.length) '0' ++ digits
  let mark := text (if slot.marked then mark else "")
  let written := (mark, digits.map CodePoint.char)
  let written := if capital then (Text.capitals written.1, Text.capitals written.2) else written
  slot.paddedNumber (n < 0) written.1 written.2

/-- How a number with a point is written. -/
inductive PointForm where
  | fixed
  | scientific
  | general

/-- A number in a form, with six digits where a slot asks for none. -/
def Slot.point (slot : Slot) (form : PointForm) (capital : Bool) (x : Binary64) : Text :=
  let places := slot.digits.getD 6
  let write (t : String) : Text := if capital then Text.capitals (text t) else text t
  match x with
  | .nan => slot.paddedNumber false [] (write "nan")
  | .infinite negative => slot.paddedNumber negative [] (write "inf")
  | .finite negative mantissa exponent =>
    let (num, den) := Binary64.ratio mantissa exponent
    let digits :=
      match form with
      | .fixed => Binary64.fixedText slot.marked places num den
      | .scientific => Binary64.scientificText slot.marked places num den
      | .general => Binary64.generalText slot.marked places num den
    slot.paddedNumber negative [] (write digits)

/-- A text in ASCII, with escapes for all else. -/
def inAscii (t : Text) : Text :=
  t.flatMap fun c =>
    let n := c.val
    if n < 0x80 then [c]
    else if n < 0x100 then text "\\x" ++ hexDigits 2 n
    else if n < 0x10000 then text "\\u" ++ hexDigits 4 n
    else text "\\U" ++ hexDigits 8 n

/-- A text cut to the digits that a slot asks for, and filled up to its width. -/
def Slot.words (slot : Slot) (t : Text) : Text :=
  slot.padded (match slot.digits with
    | some most => t.take most
    | none => t)

/-- The character that a value is, given itself or by its number. -/
def character : Json → Except TemplateFault Text
  | .string [c] => .ok [c]
  | value => do
    let n ← integerValue value
    if n < 0 then .error .outOfRange
    else
      match CodePoint.ofNat? n.toNat with
      | some c => .ok [c]
      | none => .error .outOfRange

/-- The widest text that there is room for. -/
def widest : Nat := Nat.pow 10 8

/-- Checks that there is room for what a slot asks for. -/
def Slot.checkRoom (slot : Slot) : Except TemplateFault Unit :=
  if widest < slot.width then .error .noRoom else .ok ()

/-- Checks that there is room for what a slot asks for, its digits included. -/
def Slot.checkDigits (slot : Slot) : Except TemplateFault Unit :=
  if slot.digits.any (widest < ·) then .error .noRoom else slot.checkRoom

/-- The most digits that an integer can be asked for. -/
def mostIntegerDigits : Nat := Nat.pow 2 31 - 4

/-- An integer as a slot asks for it, if there is room. -/
def Slot.filledInteger (slot : Slot) (base : Nat) (mark : String) (capital : Bool) (n : Int) :
    Except TemplateFault Text := do
  if slot.digits.any (mostIntegerDigits < ·) then .error .outOfRange
  slot.checkDigits
  return slot.integer base mark capital n

/-- A number with a point as a slot asks for it, if there is room. -/
def Slot.filledPoint (slot : Slot) (form : PointForm) (capital : Bool) (x : Binary64) :
    Except TemplateFault Text := do
  slot.checkDigits
  return slot.point form capital x

/-- A value as the letter of a slot asks for it. -/
def Slot.fill (slot : Slot) (letter : CodePoint) (value : Json) : Except TemplateFault Text :=
  let plain (t : Text) : Except TemplateFault Text := do
    slot.checkRoom
    return slot.words t
  match letter with
  | .char 's' => plain value.plainText
  | .char 'r' => plain value.shown
  | .char 'a' => plain (inAscii value.shown)
  | .char 'd' | .char 'i' | .char 'u' => do slot.filledInteger 10 "" false (← wholeNumber value)
  | .char 'x' => do slot.filledInteger 16 "0x" false (← integerValue value)
  | .char 'X' => do slot.filledInteger 16 "0x" true (← integerValue value)
  | .char 'o' => do slot.filledInteger 8 "0o" false (← integerValue value)
  | .char 'f' | .char 'F' => do
    slot.filledPoint .fixed (letter == .char 'F') (← floatValue value)
  | .char 'e' | .char 'E' => do
    slot.filledPoint .scientific (letter == .char 'E') (← floatValue value)
  | .char 'g' | .char 'G' => do
    slot.filledPoint .general (letter == .char 'G') (← floatValue value)
  | .char 'c' => do
    let c ← character value
    slot.checkRoom
    return ({ slot with digits := none }).words c
  | _ => .error .unknownLetter

/-! ## Reading slots -/

/-- The key at the start of a slot, up to the parenthesis that closes it. -/
def keyFrom? : (depth : Nat) → Text → Option (Text × Text)
  | _, [] => none
  | depth, c :: t =>
    if c = .char ')' then
      match depth with
      | 0 => some ([], t)
      | depth + 1 => (keyFrom? depth t).map fun (key, rest) => (c :: key, rest)
    else
      (keyFrom? (if c = .char '(' then depth + 1 else depth) t).map fun (key, rest) =>
        (c :: key, rest)

/-- The values for a slot, whose key may stand at its start, and what follows the key. -/
def readKey (s : Supply) : Text → Except TemplateFault (Supply × Text)
  | .char '(' :: t =>
    if s.members.isNone then .error .noMembers
    else
      match keyFrom? 0 t with
      | none => .error .unfinished
      | some (key, rest) => do return (← s.choose key, rest)
  | t => .ok (s, t)

/-- A slot with the flags that follow. -/
def readFlags (slot : Slot) : Text → Slot × Text
  | .char '-' :: t => readFlags { slot with left := true } t
  | .char '+' :: t => readFlags { slot with plus := true } t
  | .char ' ' :: t => readFlags { slot with blank := true } t
  | .char '#' :: t => readFlags { slot with marked := true } t
  | .char '0' :: t => readFlags { slot with zeros := true } t
  | t => (slot, t)

/-- Whether a code point is a digit of ASCII. -/
def isAsciiDigit (c : CodePoint) : Bool := c.asciiDigitValue?.isSome

/-- The number that some digits of ASCII write. -/
def digitsValue (t : Text) : Nat :=
  t.foldl (fun n c => n * 10 + c.asciiDigitValue?.getD 0) 0

/-- A number in a slot, or a star for which the next value stands; neither may be greater
than a number given for it. -/
def readSize (most : Nat) (s : Supply) : Text → Except TemplateFault (Int × Supply × Text)
  | .char '*' :: t => do
    let (value, s) ← s.next
    let n ← integerValue value
    if (most : Int) < n ∨ n < -(most : Int) - 1 then .error .outOfRange else return (n, s, t)
  | t =>
    let n := digitsValue (t.takeWhile isAsciiDigit)
    if most < n then .error .longSize else .ok (n, s, t.dropWhile isAsciiDigit)

/-- The greatest width. -/
def mostWidth : Nat := Nat.pow 2 63 - 1

/-- The greatest number of digits. -/
def mostDigits : Nat := Nat.pow 2 31 - 1

/-- A slot with its width. A negative width puts the value at the left. -/
def readWidth (slot : Slot) (s : Supply) (t : Text) :
    Except TemplateFault (Slot × Supply × Text) := do
  let (width, s, t) ← readSize mostWidth s t
  return ({ slot with width := width.natAbs, left := slot.left || width < 0 }, s, t)

/-- A slot with its number of digits, if a point comes first. -/
def readDigits (slot : Slot) (s : Supply) : Text → Except TemplateFault (Slot × Supply × Text)
  | .char '.' :: t => do
    let (digits, s, t) ← readSize mostDigits s t
    return ({ slot with digits := some digits.toNat }, s, t)
  | t => .ok (slot, s, t)

/-- A text without a letter for the size of a number at its start. -/
def skipSize : Text → Text
  | c :: t => if c.isAmong ['h', 'l', 'L'] then t else c :: t
  | [] => []

/-- Fills the slot behind a percent sign. A second percent sign right behind the first one
is a percent sign. -/
def fillSlot (s : Supply) (t : Text) : Except TemplateFault (Text × Supply × Text) :=
  match t with
  | .char '%' :: t => .ok (text "%", s, t)
  | t => do
    let (s, t) ← readKey s t
    let (slot, t) := readFlags .plain t
    let (slot, s, t) ← readWidth slot s t
    let (slot, s, t) ← readDigits slot s t
    match skipSize t with
    | [] => .error .unfinished
    | letter :: t =>
      let (value, s) ← s.next
      return (← slot.fill letter value, s, t)

/-- Fills a template; every slot takes at least one code point, so the length of the
template is steps enough. -/
def fillFrom : (steps : Nat) → Supply → Text → Except TemplateFault Text
  | 0, s, _ => do
    s.finish
    return []
  | _ + 1, s, [] => do
    s.finish
    return []
  | steps + 1, s, c :: t =>
    if c = .char '%' then do
      let (written, s, t) ← fillSlot s t
      return written ++ (← fillFrom steps s t)
    else do return c :: (← fillFrom steps s t)

/-- A template filled with values. Without values it is the message itself. -/
def fill (template : Text) (values : List Json) : Except TemplateFault Text :=
  if values.isEmpty then .ok template
  else fillFrom template.length (Supply.ofValues values) template

end VisibleText.Log
