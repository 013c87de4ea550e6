import VisibleText.Console.Literal.Number
import VisibleText.Text.CharacterName

/-!
# Texts between quotes

A text stands between single or double quotes, one or three on each side. Letters before
the quotes may make it a run of bytes, a text with values inside it, or raw: a raw text has
no escapes. What a text writes is looked at only when it is used; where it ends does not
depend on it, for what follows a backslash never ends a text.
-/

set_option autoImplicit false

namespace VisibleText.Console.Literal

/-- What a text between quotes is read as. -/
inductive QuotedKind where
  | plain
  | bytes
  /-- a text that has values inside it -/
  | formatted
deriving DecidableEq

/-- A text between quotes. -/
structure Quoted where
  kind : QuotedKind
  /-- three quotes stand on each side -/
  isTriple : Bool
  /-- a backslash stands for itself -/
  isRaw : Bool
  /-- how many letters and quotes stand before its body -/
  opening : Nat
  body : Text
  /-- the line of its opening quotes -/
  line : Nat
deriving DecidableEq

/-! ## Where a text ends -/

/-- How a text between quotes is read. -/
structure QuoteForm where
  /-- how many letters stand before the quotes -/
  letters : Nat
  quote : Char
  /-- three quotes stand on each side -/
  isTriple : Bool
  isRaw : Bool
  kind : QuotedKind

namespace QuoteForm

/-- The quotes of a form. -/
def marks (form : QuoteForm) : Text :=
  List.replicate (if form.isTriple then 3 else 1) (.char form.quote)

/-- What stands between quotes, and what follows them. What follows a backslash never ends
a text. `none` if the text does not end. -/
def body? (form : QuoteForm) : (t : Text) → Option (Text × Text)
  | [] => none
  | [c] => if [c] = form.marks then some ([], []) else none
  | c :: d :: t =>
    match Text.after? form.marks (c :: d :: t) with
    | some rest => some ([], rest)
    | none =>
      if c = .char '\n' && !form.isTriple then none
      else if c = .char '\\' then
        (form.body? t).map fun (body, rest) => (c :: d :: body, rest)
      else (form.body? (d :: t)).map fun (body, rest) => (c :: body, rest)

/-- How many lines a text between quotes that does not end goes on for. -/
def openLines (form : QuoteForm) : Text → Nat
  | [] => 0
  | [_] => 0
  | c :: d :: t =>
    if c = .char '\\' then (if d = .char '\n' && !t.isEmpty then 1 else 0) + form.openLines t
    else if c = .char '\n' then if form.isTriple then 1 + form.openLines (d :: t) else 0
    else form.openLines (d :: t)

/-- The text between quotes that starts behind its opening quotes, on a line, and what
follows it. -/
def read (form : QuoteForm) (line : Nat) (t : Text) : Except WordFault (Quoted × Text) :=
  match form.body? t with
  | none => .error (.unterminated form.isTriple (line + form.openLines t))
  | some (body, rest) =>
    let opening := form.letters + form.marks.length
    .ok (⟨form.kind, form.isTriple, form.isRaw, opening, body, line⟩, rest)

end QuoteForm

/-- The letters that may stand before a quote, with whether they make the text raw and
what they make it. -/
def quoteMarks : List (Text × Bool × QuotedKind) :=
  [ ("", false, .plain), ("u", false, .plain), ("r", true, .plain), ("b", false, .bytes),
    ("br", true, .bytes), ("rb", true, .bytes), ("f", false, .formatted),
    ("fr", true, .formatted), ("rf", true, .formatted) ].map
    fun (mark, isRaw, kind) => (text mark, isRaw, kind)

/-- The form of the text whose opening quotes stand behind some letters, and what follows
those quotes. -/
def quoteForm? (letters : Text) : Text → Option (QuoteForm × Text)
  | .char q :: t =>
    if q = '"' || q = '\'' then
      let small := letters.map fun
        | .char c => .char c.toLower
        | c => c
      (quoteMarks.lookup small).map fun (isRaw, kind) =>
        match Text.after? [.char q, .char q] t with
        | some rest => (⟨letters.length, q, true, isRaw, kind⟩, rest)
        | none => (⟨letters.length, q, false, isRaw, kind⟩, t)
    else none
  | _ => none

/-! ## Escapes -/

/-- An escape that writes a code point by its number. -/
structure NumberedEscape where
  letter : Char
  digits : Nat
  reason : String

/-- The escapes that write code points by their numbers. -/
def numberedEscapes : List NumberedEscape :=
  [ ⟨'x', 2, "truncated \\xXX escape"⟩, ⟨'u', 4, "truncated \\uXXXX escape"⟩,
    ⟨'U', 8, "truncated \\UXXXXXXXX escape"⟩ ]

/-- What is counted for a code point outside ASCII: ten places, as for its escape. -/
def escapePlaces : Text := .char '\\' :: .char 'U' :: List.replicate 8 (.char '0')

/-- What is counted for a backslash that escapes nothing. -/
def loneBackslash : Text := text "\\u005c"

/-- A text as its places are counted: what is not in ASCII by its escape. A backslash
before it, or at the end, stands for itself. -/
def inEscapes : Text → Text
  | [] => []
  | [c] => if c = .char '\\' then loneBackslash else if c.val < 0x80 then [c] else escapePlaces
  | c :: d :: t =>
    if c = .char '\\' then
      (if d.val < 0x80 then [c, d] else loneBackslash ++ escapePlaces) ++ inEscapes t
    else (if c.val < 0x80 then [c] else escapePlaces) ++ inEscapes (d :: t)

/-- Why a text behind a backslash at a place is no proper escape, if it is none. -/
def escapeFaultAt? (place : Nat) (t : Text) : Option WordFault :=
  match t with
  | .char 'N' :: .char '{' :: rest =>
    let name := rest.takeWhile (· != .char '}')
    let last := place + 2 + name.length
    if name.isEmpty || name.length = rest.length then
      some (.escape place last "malformed \\N character escape")
    else if Text.isCharacterName name then none
    else some (.escape place (last + 1) "unknown Unicode character name")
  | .char 'N' :: _ => some (.escape place (place + 1) "malformed \\N character escape")
  | .char c :: rest =>
    match numberedEscapes.find? (·.letter = c) with
    | none => none
    | some form =>
      let digits := (rest.take form.digits).takeWhile fun d => d.hexValue?.isSome
      let last := place + 1 + digits.length
      if digits.length < form.digits then some (.escape place last form.reason)
      else if 0x110000 ≤ digitsValue 16 digits then
        some (.escape place last "illegal Unicode character")
      else none
  | _ => none

/-- The first improper escape of a text, from a place on. -/
def escapeFaultFrom? (place : Nat) : Text → Option WordFault
  | [] => none
  | [_] => none
  | c :: d :: t =>
    if c = .char '\\' then
      match escapeFaultAt? place (d :: t) with
      | some fault => some fault
      | none => escapeFaultFrom? (place + 2) t
    else escapeFaultFrom? (place + 1) (d :: t)

/-- The first improper escape of a text. -/
def escapeFault? (t : Text) : Option WordFault := escapeFaultFrom? 0 (inEscapes t)

/-- The first improper escape of bytes, from a place on. -/
def byteEscapeFaultFrom? (place : Nat) : Text → Option WordFault
  | [] => none
  | [_] => none
  | c :: d :: t =>
    if c = .char '\\' then
      if d = .char 'x' && ((t.take 2).takeWhile fun d => d.hexValue?.isSome).length < 2 then
        some (.byteEscape place)
      else byteEscapeFaultFrom? (place + 2) t
    else byteEscapeFaultFrom? (place + 1) (d :: t)

/-- Why what stands between quotes is improper, if it is. What has values inside it is not
looked at here. -/
def Quoted.fault? (q : Quoted) : Option WordFault :=
  match q.kind with
  | .bytes =>
    if q.body.any (0x80 ≤ ·.val) then some .wideBytes
    else if q.isRaw then none
    else byteEscapeFaultFrom? 0 q.body
  | .plain => if q.isRaw then none else escapeFault? q.body
  | .formatted => none

end VisibleText.Console.Literal
