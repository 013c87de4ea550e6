import VisibleText.Console.Literal.Quoted
import VisibleText.Text.Letter

/-!
# Words of literal values

A value is written in words: numbers, texts between quotes, names, and marks, which are
signs and the names that have a meaning of their own. Blanks and comments may stand between
words. A line ends with a word of its own, except between brackets and where it holds no
other word; a line that is indented more or less than the one before starts with a word for
that.

Words are read one after the other (`Reader.next`), since a value may turn out wrong before
a wrong word is reached.
-/

set_option autoImplicit false

namespace VisibleText.Console.Literal

/-- A word. -/
inductive Word where
  | name (t : Text)
  | number (n : Number)
  | quoted (q : Quoted)
  | mark (s : String)
  /-- a sign that means nothing -/
  | sign
  | lineEnd
  | indent
  | dedent
  /-- the end of the text -/
  | finish
deriving DecidableEq

/-- Whether the end of the text is seen when a word before some rest of it is read. Texts
between quotes, the longest signs and ends of lines end by themselves; two quotes next to
each other may be the start of three, and so may two points. Behind a number a name is
looked at as a whole. -/
def Word.seesEnd (word : Word) (rest : Text) : Bool :=
  match word with
  | .quoted q => rest.isEmpty && q.body.isEmpty && !q.isTriple
  | .lineEnd => false
  | .mark s =>
    if s = "." then rest.isEmpty || rest = text "."
    else rest.isEmpty && (s.length < 3 || s.any Char.isAlpha)
  | .number _ => rest.isEmpty || namesBehindNumbers.contains rest
  | _ => rest.isEmpty

/-- A word where it stands. Columns count the bytes before them on the line. -/
structure Token where
  word : Word
  /-- the line that it starts on -/
  line : Nat
  /-- the column that it starts at -/
  column : Nat
  /-- the column behind it, on the line that it ends on -/
  behind : Nat
  /-- how many brackets are open behind it -/
  depth : Nat

/-- What reading one word gives: the word and what follows it. -/
abbrev WordRead := Except WordFault (Word × Text)

/-! ## Single words -/

/-- The names that have a meaning of their own. -/
def keywords : List String :=
  [ "False", "None", "True", "and", "as", "assert", "async", "await", "break", "class",
    "continue", "def", "del", "elif", "else", "except", "finally", "for", "from", "global", "if",
    "import", "in", "is", "lambda", "nonlocal", "not", "or", "pass", "raise", "return", "try",
    "while", "with", "yield" ]

/-- The signs, longer ones before those that they start with. -/
def signs : List String :=
  [ "**=", "//=", ">>=", "<<=", "!=", "%=", "&=", "**", "*=", "+=", "-=", "->", "//", "/=", ":=",
    "<<", "<=", "<>", "==", ">=", ">>", "@=", "^=", "|=", "%", "&", "(", ")", "*", "+", ",", "-",
    "/", ":", ";", "<", "=", ">", "@", "[", "]", "^", "\x7b", "|", "\x7d", "~" ]

/-- The first code point of a name that may not stand in it. -/
def nameFault? (name : Text) : Option CodePoint :=
  match name with
  | [] => none
  | c :: t => if c.startsName then t.find? fun c => !c.continuesName else some c

/-- The word that a name is. -/
def nameWord (name : Text) : Word :=
  match keywords.find? fun keyword => text keyword = name with
  | some keyword => .mark keyword
  | none => .name name

/-- The sign that a text starts with. -/
def readSign (t : Text) : WordRead :=
  match signs.find? fun sign => t.startsWith (text sign) with
  | some sign => .ok (if sign = "<>" then .sign else .mark sign, t.drop sign.length)
  | none =>
    match t with
    | [] => .ok (.finish, [])
    | c :: rest => if c.isPrintable then .ok (.sign, rest) else .error (.character c)

/-- The word that a text starts with, on a line. -/
def readWord (line : Nat) (t : Text) : WordRead :=
  let letters := t.takeWhile isNamePart
  let behind := t.drop letters.length
  let ofNumber := fun (number, rest) => (Word.number number, rest)
  let ofQuoted := fun (q, rest) => (Word.quoted q, rest)
  match t with
  | .char '.' :: rest =>
    if rest.head?.any CodePoint.isAsciiDigit then (readNumber t).map ofNumber
    else
      match Text.after? (text "..") rest with
      | some rest => .ok (.mark "...", rest)
      | none => .ok (.mark ".", rest)
  | _ =>
    if t.head?.any CodePoint.isAsciiDigit then (readNumber t).map ofNumber
    else
      match quoteForm? letters behind with
      | some (form, body) => (form.read line body).map ofQuoted
      | none =>
        if letters.isEmpty then readSign t
        else
          match nameFault? letters with
          | some c => .error (.character c)
          | none => .ok (nameWord letters, behind)

/-! ## Brackets -/

/-- An open bracket, and the line that it stands on. -/
structure OpenBracket where
  bracket : Char
  line : Nat

/-- Brackets and what closes them. -/
def brackets : List (Char × Char) := [('(', ')'), ('\x7b', '\x7d'), ('[', ']')]

/-- How deep brackets may stand in each other. -/
def deepest : Nat := 200

/-- The open brackets behind a sign on a line; the innermost stands first. -/
def bracketsAfter (opened : List OpenBracket) (line : Nat) (sign : String) :
    Except WordFault (List OpenBracket) :=
  match sign.toList with
  | [c] =>
    if (brackets.lookup c).isSome then
      if deepest ≤ opened.length then .error .tooManyBrackets else .ok (⟨c, line⟩ :: opened)
    else if brackets.any (·.2 = c) then
      match opened with
      | [] => .error (.unmatched c)
      | b :: opened =>
        if brackets.lookup b.bracket = some c then .ok opened
        else
          .error (.mismatched c b.bracket (if b.line = line then none else some b.line))
    else .ok opened
  | _ => .ok opened

/-! ## Indents -/

/-- How far a line is indented: its width if tabs stop at every eighth place, and if they
count as one. -/
structure Indent where
  width : Nat
  narrow : Nat
deriving DecidableEq

/-- How deep lines may be indented in each other. -/
def mostIndents : Nat := 100

/-- How far a line is indented, and what follows. Where an indented line is continued, its
own indent counts: `kept` is the indent of a line that was continued. -/
def lineStart (indent : Indent) (kept : Nat) : Text → Except WordFault (Indent × Text)
  | .char ' ' :: t => lineStart ⟨indent.width + 1, indent.narrow + 1⟩ kept t
  | .char '\t' :: t => lineStart ⟨(indent.width / 8 + 1) * 8, indent.narrow + 1⟩ kept t
  | .char '\x0c' :: t => lineStart ⟨0, 0⟩ kept t
  | [.char '\\', .char '\n'] => .error .endsContinued
  | .char '\\' :: .char '\n' :: t => lineStart indent (if kept = 0 then indent.width else kept) t
  | .char '\\' :: _ => .error .continued
  | t => .ok (if kept = 0 then indent else ⟨kept, kept⟩, t)

/-- What the indent of a line means behind those of the lines that it stands in: the words
that it starts with, and the indents after it. -/
def indentWords (indents : List Indent) (indent : Indent) :
    Except WordFault (List Word × List Indent) :=
  let outer := indents.dropWhile fun outer => indent.width < outer.width
  let base := outer.head?.getD ⟨0, 0⟩
  if outer.length < indents.length then
    if indent.width != base.width then .error .indentUnmatched
    else if indent.narrow != base.narrow then .error .indentMixed
    else .ok (List.replicate (indents.length - outer.length) .dedent, outer)
  else if indent.width = base.width then
    if indent.narrow = base.narrow then .ok ([], indents) else .error .indentMixed
  else if mostIndents ≤ indents.length + 1 then .error .indentTooDeep
  else if indent.narrow ≤ base.narrow then .error .indentMixed
  else .ok ([.indent], indent :: indents)

/-! ## Words one after the other -/

/-- How reading words may end early. -/
inductive Refusal where
  /-- by a word that is none -/
  | word (fault : WordFault)
  /-- by what stands between words, or since the text ends too early -/
  | between (fault : WordFault)

/-- The fault of a refusal. -/
def Refusal.fault : Refusal → WordFault
  | word fault => fault
  | between fault => fault

/-- The start of a text that is read: its line, and the columns before it on that line. -/
structure Origin where
  line : Nat
  shift : Nat

/-- The column behind a text that starts at a column. -/
def columnBehind (column : Nat) (read : Text) : Nat :=
  read.foldl (fun column c => if c = .char '\n' then 0 else column + c.width) column

/-- What is left to read, and where. -/
structure Reader where
  origin : Origin
  rest : Text
  line : Nat
  /-- the column on the line, as far as it belongs to the text -/
  column : Nat
  opened : List OpenBracket
  /-- the indents of the lines that this one stands in; the innermost stands first -/
  indents : List Indent
  /-- words for the indent of the line that are still to come -/
  waiting : List Word
  atLineStart : Bool

namespace Reader

/-- The reader at the start of a text. -/
def ofText (t : Text) (origin : Origin) : Reader :=
  ⟨origin, t, origin.line, 0, [], [], [], true⟩

/-- The reader where so much is left. -/
def advance (r : Reader) (rest : Text) : Reader :=
  let read := r.rest.take (r.rest.length - rest.length)
  { r with
    rest
    line := r.line + read.countP (· = .char '\n')
    column := columnBehind r.column read }

/-- A word that ends where another reader starts. The columns before the text count where a
word ends on the first line. -/
def token (r : Reader) (word : Word) (after : Reader) : Token :=
  let shift := if after.line = r.origin.line then r.origin.shift else 0
  ⟨word, r.line, shift + r.column, shift + after.column, after.opened.length⟩

/-- The fault of a text that ends where it should go on. -/
def endFault (r : Reader) : WordFault :=
  match r.opened with
  | b :: _ => .neverClosed b.bracket
  | [] => .endsContinued

/-- The reader behind the indent of a line, and whether nothing but a comment follows. -/
def atIndent (r : Reader) : Except WordFault (Reader × Bool) := do
  if !r.atLineStart then return (r, false)
  else
    match lineStart ⟨0, 0⟩ 0 r.rest with
    | .error .endsContinued => .error r.endFault
    | .error fault => .error fault
    | .ok (indent, rest) =>
      let r := { r.advance rest with atLineStart := false }
      let isBlank := rest.head?.any fun c => c.isAmong ['#', '\n']
      if isBlank || !r.opened.isEmpty then return (r, isBlank)
      else
        let (words, indents) ← indentWords r.indents indent
        return ({ r with indents, waiting := words }, false)

/-- A word and the reader behind it. -/
abbrev Step := Except Refusal (Token × Reader)

/-- The word that the rest of a line starts with. -/
def word (r : Reader) : Step :=
  match readWord r.line r.rest with
  | .error fault => .error (.word fault)
  | .ok (word, rest) =>
    let opened :=
      match word with
      | .mark sign => bracketsAfter r.opened r.line sign
      | _ => .ok r.opened
    match opened with
    | .error fault => .error (.word fault)
    | .ok opened =>
      let after := { r.advance rest with opened }
      .ok (r.token word after, after)

/-- The next word. A line without words is passed over as a whole; each step behind the
first one passes over a line, so the length of the text is steps enough. -/
def nextFrom : (steps : Nat) → Reader → Step
  | 0, r => .error (.between r.endFault)
  | steps + 1, r =>
    match r.atIndent with
    | .error fault => .error (.between fault)
    | .ok (r, isBlank) =>
      match r.waiting with
      | word :: waiting => .ok (r.token word r, { r with waiting })
      | [] =>
        let rest := r.rest.dropWhile fun c => c.isAmong [' ', '\t', '\x0c']
        let r := r.advance <|
          if rest.head? = some (.char '#') then rest.dropWhile (· != .char '\n') else rest
        match r.rest with
        | [] =>
          if r.opened.isEmpty then .ok (r.token .finish r, r) else .error (.between r.endFault)
        | .char '\n' :: rest =>
          let after := { r.advance rest with atLineStart := true }
          if isBlank || !r.opened.isEmpty then nextFrom steps after
          else .ok (r.token .lineEnd r, after)
        | [.char '\\', .char '\n'] => .error (.between r.endFault)
        | .char '\\' :: .char '\n' :: rest => nextFrom steps (r.advance rest)
        | .char '\\' :: _ => .error (.between .continued)
        | _ => r.word

/-- The next word. -/
def next (r : Reader) : Step := nextFrom (r.rest.length + 1) r

/-- What refuses the words that are left, if anything does. -/
def refusalFrom? : (steps : Nat) → Reader → Option (Refusal × List OpenBracket)
  | 0, _ => none
  | steps + 1, r =>
    match r.next with
    | .error refusal => some (refusal, r.opened)
    | .ok (token, r) => if token.word = .finish then none else refusalFrom? steps r

/-- What refuses the words that are left, if anything does, and the brackets that are open
there. A word takes a code point, or it stands for an indent; there are no more of these
than lines twice over. -/
def refusal? (r : Reader) : Option (Refusal × List OpenBracket) :=
  refusalFrom? (3 * r.rest.length + r.indents.length + r.waiting.length + 1) r

end Reader

end VisibleText.Console.Literal
