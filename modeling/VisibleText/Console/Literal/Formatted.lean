import VisibleText.Console.Literal.Reading

/-!
# Texts with values inside them

A text may have values inside it, each between braces: an expression, then perhaps an
equals sign, the way in which it is converted behind an exclamation mark, and the format in
which it is written behind a colon. The format is such a text itself, in which values may
stand once more. Two braces next to each other stand for one.

Whether an expression is a proper one is not decided here: the readers of these texts are
given a function that says why it is none.
-/

set_option autoImplicit false

namespace VisibleText.Console.Literal

/-- How texts with values inside them are read. -/
structure ValueSetting where
  /-- how a fault is told -/
  raised : Raised
  /-- where the last word that was fetched starts -/
  latest : Nat
  /-- the height of the expression that a text is, or why it is none -/
  heightOf : Text → Origin → Except LiteralFault Nat

/-! ## Plain parts -/

/-- The plain part that a text starts with. -/
structure PlainPart where
  body : Text
  rest : Text
  /-- the part ends in two braces that stand for one -/
  isDoubled : Bool

namespace PlainPart

/-- A plain part with more before it. -/
def behind (before : Text) (part : PlainPart) : PlainPart :=
  { part with body := before ++ part.body }

/-- The plain part before a brace. In a format two braces do not stand for one. -/
def atBrace (isFormat : Bool) (c : CodePoint) (t : Text) : PlainPart :=
  if !isFormat && t.head? = some c then ⟨[c], t.tail, true⟩ else ⟨[], c :: t, false⟩

mutual

/-- The plain part that a text starts with. -/
def ofText (isRaw isFormat : Bool) : Text → PlainPart
  | [] => ⟨[], [], false⟩
  | c :: t =>
    if c = .char '\\' && !isRaw then behindBackslash isRaw isFormat c t
    else if c.isAmong ['\x7b', '\x7d'] then atBrace isFormat c t
    else (ofText isRaw isFormat t).behind [c]

/-- The plain part behind a backslash. -/
def behindBackslash (isRaw isFormat : Bool) (backslash : CodePoint) : Text → PlainPart
  | [] => ⟨[backslash], [], false⟩
  | c :: t =>
    if c = .char 'N' then (behindNameMark isRaw isFormat t).behind [backslash, c]
    else if c.isAmong ['\x7b', '\x7d'] then (atBrace isFormat c t).behind [backslash]
    else (ofText isRaw isFormat t).behind [backslash, c]

/-- The plain part behind the start of an escape that names a character. The next code
point belongs to the escape, whichever it is. -/
def behindNameMark (isRaw isFormat : Bool) : Text → PlainPart
  | [] => ⟨[], [], false⟩
  | c :: t =>
    (if c = .char '\x7b' then inName isRaw isFormat t else ofText isRaw isFormat t).behind [c]

/-- The plain part inside the braces of a name. -/
def inName (isRaw isFormat : Bool) : Text → PlainPart
  | [] => ⟨[], [], false⟩
  | c :: t =>
    (if c = .char '\x7d' then ofText isRaw isFormat t else inName isRaw isFormat t).behind [c]

end

end PlainPart

/-! ## Expressions -/

/-- A text between quotes that an expression has started. -/
structure OpenQuote where
  quote : CodePoint
  isTriple : Bool

/-- Whether an expression ends before a sign. -/
def endsExpression (c : CodePoint) : Bool := c.isAmong ['!', ':', '=', '\x7d']

/-- Whether a sign and an equals sign behind it make a sign of comparison. -/
def joinsEquals (c : CodePoint) : Bool := c.isAmong ['!', '=', '<', '>']

/-- The expression that a text starts with, and the text from the sign on that ends it. So
many code points at the start belong to what was read before. -/
def expressionPart (skipped : Nat) (open? : Option OpenQuote) (opened : List Char) :
    Text → Except FormattedFault (Text × Text)
  | [] =>
    match open?, opened with
    | some _, _ => .error .unterminated
    | none, b :: _ => .error (.unmatched b)
    | none, [] => .ok ([], [])
  | c :: t =>
    let go (skipped : Nat) (open? : Option OpenQuote) (opened : List Char) := do
      let (e, rest) ← expressionPart skipped open? opened t
      return (c :: e, rest)
    match skipped with
    | skipped + 1 => go skipped open? opened
    | 0 =>
      let isTriple := Text.startsWith t [c, c]
      match open?, c with
      | _, .char '\\' => .error .backslash
      | some q, c =>
        if c != q.quote then go 0 open? opened
        else if !q.isTriple then go 0 none opened
        else if isTriple then go 2 none opened
        else go 0 open? opened
      | none, c =>
        if c.isAmong ['\'', '"'] then go (if isTriple then 2 else 0) (some ⟨c, isTriple⟩) opened
        else if c = .char '#' then .error .comment
        else if opened.isEmpty && joinsEquals c && t.head? = some (.char '=') then
          go 1 none opened
        else if opened.isEmpty && endsExpression c then .ok ([], c :: t)
        else
          match c with
          | .surrogate _ => go 0 none opened
          | .char c =>
            if (brackets.lookup c).isSome then
              if deepest ≤ opened.length then .error .tooManyBrackets else go 0 none (c :: opened)
            else if brackets.any (·.2 = c) then
              match opened with
              | [] => .error (.unmatched c)
              | b :: opened =>
                if brackets.lookup b = some c then go 0 none opened
                else .error (.mismatched c b)
            else go 0 none opened

/-! ## Values -/

/-- Whether a code point is passed over behind an equals sign. -/
def isAsciiBlank (c : CodePoint) : Bool := c.isAmong [' ', '\t', '\n', '\x0b', '\x0c', '\r']

/-- Whether a code point is passed over in front of an expression. -/
def isInnerBlank (c : CodePoint) : Bool := c.isAmong [' ', '\t', '\x0c']

/-- How deep values may stand in the formats of values. -/
def mostFormats : Nat := 2

/-- The origin of a value, by what is left of the text behind its brace. Where nothing but
blanks follows on the line, what stands before the value on its line does not count. -/
def Piece.originOf (piece : Piece) (rest : Text) : Origin :=
  let body := piece.quoted.body
  let before := body.take (body.length - rest.length - 1)
  let lines := before.countP (· = .char '\n')
  let isBelow := ((rest.dropWhile isInnerBlank).head?.any fun c => c.isAmong ['\n', '\x7d'])
  let line := piece.quoted.line + lines
  if lines = 0 then
    ⟨line, piece.column + if isBelow then 0 else piece.quoted.opening + Text.width before⟩
  else ⟨line, if isBelow then 0 else columnBehind 0 before⟩

/-- Reading values, with the height that they have reached so far. -/
abbrev ValueReading := StateT Nat (Except LiteralFault)

namespace ValueSetting

/-- A fault of the words that were fetched so far. -/
def soFar (g : ValueSetting) (fault : LiteralFault) : LiteralFault := g.raised (g.latest + 1) fault

/-- Stops at a fault. -/
def stop {α : Type} (g : ValueSetting) (fault : FormattedFault) : ValueReading α :=
  throw (g.soFar (.formatted fault))

/-- Checks an expression that a sign ends. At each level the text and its value stand above
it. -/
def checkExpression (g : ValueSetting) (level : Nat) (origin : Origin) (e : Text)
    (sign : CodePoint) : ValueReading Unit :=
  if e.all fun c => isInnerBlank c || c = .char '\n' then
    match sign with
    | .char c => g.stop (if c = '\x7d' then .empty else .missingBefore c)
    | .surrogate _ => g.stop .empty
  else do
    let height ← g.heightOf e origin
    modify (max (height + 2 * (level + 1)))

/-- What follows the conversion of a value, if there is one. -/
def afterConversion (g : ValueSetting) : Text → ValueReading Text
  | [.char '!'] => g.stop .unclosed
  | .char '!' :: c :: rest =>
    if c.isAmong ['s', 'r', 'a'] then return rest else g.stop .conversion
  | rest => return rest

mutual

/-- Reads the plain parts and the values of a piece, of which so much is left. In a format,
what follows its end is left. -/
def parts (g : ValueSetting) (piece : Piece) :
    (steps level : Nat) → Text → ValueReading Text
  | 0, _, _ => g.stop .unclosed
  | steps + 1, level, t => do
    let isRaw := piece.quoted.isRaw
    let part := PlainPart.ofText isRaw (0 < level) t
    if level = 0 && !part.isDoubled && part.rest.head? = some (.char '\x7d') then
      g.stop .singleBrace
    else
      match if isRaw then none else escapeFault? part.body with
      | some fault => throw (g.soFar (.word fault))
      | none =>
        if part.isDoubled then g.parts piece steps level part.rest
        else
          match part.rest with
          | [] => if 0 < level then g.stop .unclosed else return []
          | c :: rest =>
            if c = .char '\x7d' then return part.rest
            else do
              let rest ← g.value piece steps level rest
              g.parts piece steps level rest

/-- Reads a value behind its brace, up to the brace that closes it. -/
def value (g : ValueSetting) (piece : Piece) :
    (steps level : Nat) → Text → ValueReading Text
  | 0, _, _ => g.stop .unclosed
  | steps + 1, level, t => do
    if mostFormats ≤ level then g.stop .nestedTooDeep
    else
      match expressionPart 0 none [] t with
      | .error fault => g.stop fault
      | .ok (_, []) => g.stop .unclosed
      | .ok (e, sign :: rest) => do
        g.checkExpression level (piece.originOf t) e sign
        let rest := if sign = .char '=' then rest.dropWhile isAsciiBlank else sign :: rest
        if rest.isEmpty then g.stop .unclosed
        else do
          let rest ← g.afterConversion rest
          let rest ←
            match rest with
            | [.char ':'] => g.stop .unclosed
            | .char ':' :: rest => g.parts piece steps (level + 1) rest
            | rest => pure rest
          match rest with
          | .char '\x7d' :: rest => return rest
          | _ => g.stop .unclosed

end

/-- Reads a text with values inside it. -/
def read (g : ValueSetting) (piece : Piece) : ValueReading Unit := do
  let body := piece.quoted.body
  let _ ← g.parts piece (2 * body.length + 2) 0 body

/-! ## Texts next to each other -/

/-- Reads a text. Another one of the same text may stand before it. -/
def readPiece (g : ValueSetting) (before? : Option Piece) (piece : Piece) : ValueReading Unit :=
  let q := piece.quoted
  match q.fault? with
  | some .wideBytes => throw (g.raised (piece.column + 1) (.word .wideBytes))
  | some fault => throw (g.soFar (.word fault))
  | none =>
    if before?.any fun before => (before.quoted.kind == .bytes) != (q.kind == .bytes) then
      throw (g.soFar (.word .mixedTexts))
    else if q.kind = .formatted then g.read piece
    else pure ()

/-- Reads texts next to each other, behind another one. -/
def readPieces (g : ValueSetting) (before? : Option Piece) : List Piece → ValueReading Unit
  | [] => pure ()
  | piece :: pieces => do
    g.readPiece before? piece
    g.readPieces (some piece) pieces

/-- What texts next to each other make, and its height. -/
def join (g : ValueSetting) (pieces : List Piece) : Except LiteralFault (Form × Nat) := do
  let ((), height) ← (g.readPieces none pieces).run 1
  return (if pieces.any (·.quoted.kind == .formatted) then .formatted else .plain, height)

end ValueSetting

end VisibleText.Console.Literal
