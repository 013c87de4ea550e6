import VisibleText.Markup.Tree
import VisibleText.Text.Case
import VisibleText.Text.Letter
import VisibleText.Text.Search

/-!
# Reading markup

A page is frontmatter and content. Each reader takes what is left of a page, and gives back what it
read and what is left then. Tags and expressions hold each other, so their readers are given the
readers for one level of nesting less (`Readers`); at level zero reading stops with
`Failure.tooDeep`.

Within one level a reader repeats a step that takes at least one code point. The number of steps is
bounded by the length of what is left, so the bound is never what ends the reading.
-/

set_option autoImplicit false

namespace VisibleText.Markup

open VisibleText.Text (after? cutAt?)

/-! ## Names of tags and attributes

Which characters a name may hold, and what the name of a tag says about it: whether
it is a component, whether it has content, and whether its content is markup.
-/

/-- Whether a code point may stand in the name of a tag. -/
def isTagNamePart (c : CodePoint) : Bool :=
  !c.isBlank && !c.isAmong ['/', '>', '{', '}', '"', '\'', '=', '<']

/-- Whether a code point may stand in the name of an attribute. -/
def isAttributeNamePart (c : CodePoint) : Bool :=
  !c.isBlank && !c.isAmong ['=', '>', '/', '{', '}', '"', '\'', '<']

/-- The name of a component starts with a capital or holds a dot. -/
def isComponentName (name : Text) : Bool :=
  match name with
  | [] => false
  | c :: _ => c.isCapital || List.contains name (.char '.')

/-- The small form of a code point, as far as it is an ASCII letter: besides the
capitals from A to Z only the Kelvin sign has one. -/
def smallForm : CodePoint → CodePoint
  | .char '\u212A' => .char 'k'
  | .char c => .char c.toLower
  | c => c

/-- A name is compared with the ASCII names of elements in its small form. -/
def smallName (name : Text) : Text := name.map smallForm

/-- Elements that never have content. -/
def voidElements : List Text :=
  ["area", "base", "br", "col", "embed", "hr", "img", "input", "link", "meta", "param", "source",
    "track", "wbr"].map text

/-- Elements whose content is raw text up to their closing tag. -/
def rawElements : List Text := ["script", "style"].map text

/-- Whether a tag of this name is an element without content. -/
def isVoid (name : Text) : Bool :=
  !isComponentName name && voidElements.contains (smallName name)

/-- Whether a tag of this name is an element with raw content. -/
def isRaw (name : Text) : Bool :=
  !isComponentName name && rawElements.contains (smallName name)

/-- Letters that agree in the closing tag of a raw element, besides those that differ
in case: the long s agrees with s, and the i without a dot and the capital I with
one agree with i. -/
def foldedForm : CodePoint → CodePoint
  | .char '\u017F' => .char 's'
  | .char '\u0130' => .char 'i'
  | .char '\u0131' => .char 'i'
  | c => smallForm c

/-- What follows a name, in whatever case it is written. -/
def afterNameInAnyCase? : (name t : Text) → Option Text
  | [], t => some t
  | _ :: _, [] => none
  | n :: name, c :: t =>
    if foldedForm n = foldedForm c then afterNameInAnyCase? name t else none

/-- A letter or `>` after an angle bracket opens a tag. -/
def opensTag : Text → Bool
  | .char '<' :: c :: _ => c == .char '>' || c.isLetter
  | _ => false

/-- A run of text ends where a brace or markup follows. Markup is an angle bracket
before a slash, an exclamation mark, another angle bracket or a sign that words are
made of. -/
def endsText : Text → Bool
  | .char '{' :: _ => true
  | .char '<' :: c :: _ => c.isAmong ['/', '!', '>'] || c.isWordSign
  | _ => false

/-- What a reader gives back when it does not fail: what it read, and what is left
of the page behind it. -/
structure Taken (α : Type) where
  value : α
  left : Text

/-- The readers for what is nested in tags and expressions. -/
structure Readers where
  /-- reads a tag within the tags that have been opened, the innermost first -/
  tag : (opened : List Text) → Text → Except Failure (Taken Node)
  /-- reads an expression from its opening brace on -/
  expression : Text → Except Failure (Taken (List Piece))

/-- Puts something in front of what was read. -/
def prepend {α : Type} (front : List α) (reading : Except Failure (Taken (List α))) :
    Except Failure (Taken (List α)) :=
  reading.map fun taken => ⟨front ++ taken.value, taken.left⟩

/-- Reads up to a mark and past it, with a fault at `start` if there is none. -/
def readPast (mark : Text) (fault : Fault) (start left : Text) : Except Failure (Taken Text) :=
  match cutAt? mark left with
  | some (before, rest) => .ok ⟨before, rest⟩
  | none => .error (.fault fault start)

/-! ## Code -/

/-- Reads a string in code, from behind its opening quote up to its end. A backslash
protects the code point after it. A string between backticks may hold expressions;
any other string ends at the end of its line at the latest. -/
def readString (inner : Readers) (quote : CodePoint) (start : Text) :
    (steps : Nat) → Text → Except Failure (Taken Text)
  | 0, _ => .error (.fault .unterminatedString start)
  | steps + 1, left =>
    match left with
    | [] => .error (.fault .unterminatedString start)
    | c :: rest =>
      if c = .char '\\' then
        match rest with
        | [] => .error (.fault .unterminatedString start)
        | d :: rest => prepend [c, d] (readString inner quote start steps rest)
      else if c = quote then
        .ok ⟨[c], rest⟩
      else if quote = .char '`' then
        if c = .char '$' && rest.head? = some (.char '{') then do
          let ⟨pieces, rest⟩ ← inner.expression rest
          prepend (c :: braced (piecesSource pieces)) (readString inner quote start steps rest)
        else
          prepend [c] (readString inner quote start steps rest)
      else if c = .char '\n' then
        .ok ⟨[], left⟩
      else
        prepend [c] (readString inner quote start steps rest)

/-- Operators after which a tag may open in code. -/
def tagPreceders : List Char :=
  ['(', ',', '?', ':', '=', '&', '|', '{', '[', '>', '!', ';']

/-- Whether a tag may open after some code, which is given in reverse: at the start
of the code, after an operator, or after the word `return`. Anywhere else an angle
bracket compares. -/
def tagMayFollow (before : Text) : Bool :=
  match before.dropWhile CodePoint.isBlank with
  | [] => true
  | c :: code => c.isAmong tagPreceders || (text "return").reverse.isPrefixOf (c :: code)

/-- The piece of the code that has been read in reverse. -/
def codePiece (before : Text) : List Piece :=
  if before.isEmpty then [] else [.code before.reverse]

/-- Reads the pieces of an expression up to the brace that closes it. `depth` counts
the braces that are open, and `before` is the code since the last tag, in reverse. -/
def readCode (inner : Readers) (start : Text) :
    (steps depth : Nat) → (before : Text) → Text → Except Failure (Taken (List Piece))
  | 0, _, _, _ => .error (.fault .unterminatedExpression start)
  | steps + 1, depth, before, left =>
    match left with
    | [] => .error (.fault .unterminatedExpression start)
    | c :: rest =>
      if c.isAmong ['"', '\'', '`'] then do
        let ⟨string, rest⟩ ← readString inner c left rest.length rest
        readCode inner start steps depth (string.reverse ++ c :: before) rest
      else if (text "//").isPrefixOf left then
        let (line, rest) := left.span (· ≠ .char '\n')
        readCode inner start steps depth (line.reverse ++ before) rest
      else if (text "/*").isPrefixOf left then do
        let ⟨comment, rest⟩ ← readPast (text "*/") .unterminatedCodeComment left (left.drop 2)
        let written := text "/*" ++ comment ++ text "*/"
        readCode inner start steps depth (written.reverse ++ before) rest
      else if c = .char '{' then
        readCode inner start steps (depth + 1) (c :: before) rest
      else if c = .char '}' then
        if depth ≤ 1 then .ok ⟨codePiece before, rest⟩
        else readCode inner start steps (depth - 1) (c :: before) rest
      else if opensTag left && tagMayFollow before then do
        let ⟨node, rest⟩ ← inner.tag [] left
        prepend (codePiece before ++ [.markup node]) (readCode inner start steps depth [] rest)
      else
        readCode inner start steps depth (c :: before) rest

/-- Reads an expression from its opening brace on. -/
def readExpression (inner : Readers) (left : Text) : Except Failure (Taken (List Piece)) :=
  readCode inner left left.length 1 [] (left.drop 1)

/-! ## Opening tags -/

/-- Cuts off a value without quotes: it ends before a blank, before `>`, and before
a slash that ends the tag. -/
def bareValue : Text → Text × Text
  | [] => ([], [])
  | c :: rest =>
    if c.isBlank || c = .char '>' || (c = .char '/' && rest.head? = some (.char '>')) then
      ([], c :: rest)
    else
      let (value, left) := bareValue rest
      (c :: value, left)

/-- Reads the value of an attribute, from the first code point behind the equals sign
and its blanks. -/
def readLiteral (inner : Readers) (name : Text) (left : Text) : Except Failure (Taken Literal) :=
  match left with
  | .char '"' :: rest => do
    let ⟨value, rest⟩ ← readPast [.char '"'] (.unterminatedValue name) left rest
    return ⟨.quoted .double value, rest⟩
  | .char '\'' :: rest => do
    let ⟨value, rest⟩ ← readPast [.char '\''] (.unterminatedValue name) left rest
    return ⟨.quoted .single value, rest⟩
  | .char '`' :: rest => do
    let ⟨value, rest⟩ ← readPast [.char '`'] (.unterminatedValue name) left rest
    return ⟨.template value, rest⟩
  | .char '{' :: _ => do
    let ⟨pieces, rest⟩ ← inner.expression left
    return ⟨.code (piecesSource pieces), rest⟩
  | _ =>
    let (value, rest) := bareValue left
    if value.isEmpty then .ok ⟨.missing, left⟩ else .ok ⟨.bare value, rest⟩

/-- Reads what may follow the name of an attribute: blanks, an equals sign, blanks
and a value. Without an equals sign nothing is taken. -/
def readAssignment (inner : Readers) (tag name left : Text) :
    Except Failure (Taken (Option Assignment)) :=
  let (blankBefore, rest) := left.span CodePoint.isBlank
  match rest with
  | .char '=' :: rest =>
    let (blankAfter, rest) := rest.span CodePoint.isBlank
    if rest.isEmpty then .error (.fault .unterminatedOpeningTag tag)
    else do
      let ⟨literal, rest⟩ ← readLiteral inner name rest
      return ⟨some ⟨blankBefore, blankAfter, literal⟩, rest⟩
  | _ => .ok ⟨none, left⟩

/-- Reads one part of an opening tag other than its end. -/
def readPart (inner : Readers) (tag left : Text) : Except Failure (Taken TagPart) :=
  match left with
  | [] => .error (.fault .unterminatedOpeningTag tag)
  | .char '/' :: rest => .ok ⟨.slash, rest⟩
  | .char '{' :: _ => do
    let ⟨pieces, rest⟩ ← inner.expression left
    return ⟨.code (piecesSource pieces), rest⟩
  | c :: _ =>
    if c.isBlank then
      let (blanks, rest) := left.span CodePoint.isBlank
      .ok ⟨.blank blanks, rest⟩
    else
      let (name, rest) := left.span isAttributeNamePart
      if name.isEmpty then .error (.fault (.unexpectedCharacter c) left)
      else do
        let ⟨assignment, rest⟩ ← readAssignment inner tag name rest
        return ⟨.named name assignment, rest⟩

/-- Reads the parts of an opening tag and its end; whether the end closes the tag is
the first component of what is read. -/
def readParts (inner : Readers) (tag : Text) :
    (steps : Nat) → Text → Except Failure (Taken (Bool × List TagPart))
  | 0, _ => .error (.fault .unterminatedOpeningTag tag)
  | steps + 1, left =>
    match left with
    | .char '>' :: rest => .ok ⟨(false, []), rest⟩
    | .char '/' :: .char '>' :: rest => .ok ⟨(true, []), rest⟩
    | _ => do
      let ⟨part, rest⟩ ← readPart inner tag left
      let ⟨(selfClosing, parts), rest⟩ ← readParts inner tag steps rest
      return ⟨(selfClosing, part :: parts), rest⟩

/-- Reads an opening tag that has a name. -/
def readOpenTag (inner : Readers) (left : Text) : Except Failure (Taken OpenTag) :=
  let (name, rest) := (left.drop 1).span isTagNamePart
  (readParts inner left left.length rest).map fun ⟨(selfClosing, parts), rest⟩ =>
    ⟨⟨name, parts, selfClosing⟩, rest⟩

/-! ## Content -/

/-- The raw content of an element up to its closing tag, what the closing tag holds,
and what is left. -/
def rawContent? (name : Text) : Text → Option (Text × Text × Text)
  | [] => none
  | c :: rest =>
    let closing := do
      let inner ← after? (text "</") (c :: rest)
      let behind ← afterNameInAnyCase? name inner
      match behind.dropWhile CodePoint.isBlank with
      | .char '>' :: left => some (inner.take (inner.length - left.length - 1), left)
      | _ => none
    match closing with
    | some (inner, left) => some ([], inner, left)
    | none =>
      match rawContent? name rest with
      | some (content, inner, left) => some (c :: content, inner, left)
      | none => none

/-- Cuts off a run of text. Its first code point belongs to it whatever it is. -/
def textRun : Text → Text × Text
  | [] => ([], [])
  | c :: rest =>
    let (run, left) := tail rest
    (c :: run, left)
where
  /-- the part of a run behind its first code point -/
  tail : Text → Text × Text
    | [] => ([], [])
    | c :: rest =>
      if endsText (c :: rest) then ([], c :: rest)
      else
        let (run, left) := tail rest
        (c :: run, left)

/-- What stands next in the content of a tag. -/
inductive Item where
  | node (node : Node)
  /-- the closing tag of the innermost open tag, with what it holds -/
  | closing (inner : Text)
  /-- the closing tag of a tag further out; nothing is taken -/
  | closingOuter

/-- Reads a closing tag. It closes the innermost open tag of its name, and with it
every tag opened since. -/
def readClosingTag (opened : List Text) (left : Text) : Except Failure (Taken Item) := do
  let ⟨inner, rest⟩ ← readPast [.char '>'] .unterminatedClosingTag left (left.drop 2)
  let name := inner.trim
  if opened.head? = some name then return ⟨.closing inner, rest⟩
  else if opened.contains name then return ⟨.closingOuter, left⟩
  else .error (.fault (.unexpectedClosingTag name) left)

/-- Reads the next thing in the content of a tag. -/
def readItem (inner : Readers) (opened : List Text) (left : Text) : Except Failure (Taken Item) :=
  if (text "<!--").isPrefixOf left then do
    let ⟨value, rest⟩ ← readPast (text "-->") .unterminatedComment left (left.drop 4)
    return ⟨.node (.comment value), rest⟩
  else if (text "<!").isPrefixOf left then do
    let ⟨value, rest⟩ ← readPast [.char '>'] .unterminatedDoctype left (left.drop 2)
    return ⟨.node (.doctype value), rest⟩
  else if (text "</").isPrefixOf left then
    readClosingTag opened left
  else if opensTag left then do
    let ⟨node, rest⟩ ← inner.tag opened left
    return ⟨.node node, rest⟩
  else if left.head? = some (.char '{') then do
    let ⟨pieces, rest⟩ ← inner.expression left
    return ⟨.node (.expression pieces), rest⟩
  else
    let (run, rest) := textRun left
    .ok ⟨.node (.text run), rest⟩

/-- The content of a tag: its nodes, and what its closing tag holds if it has one. -/
structure Content where
  nodes : List Node
  closing : Option Text

/-- Reads content up to the closing tag of the innermost open tag, to the closing tag
of one further out, or to the end of the page. -/
def readContent (inner : Readers) (opened : List Text) :
    (steps : Nat) → Text → Except Failure (Taken Content)
  | 0, left => .ok ⟨⟨[], none⟩, left⟩
  | steps + 1, left =>
    if left.isEmpty then .ok ⟨⟨[], none⟩, []⟩
    else do
      let ⟨item, rest⟩ ← readItem inner opened left
      match item with
      | .closing closing => return ⟨⟨[], some closing⟩, rest⟩
      | .closingOuter => return ⟨⟨[], none⟩, rest⟩
      | .node node =>
        let ⟨content, rest⟩ ← readContent inner opened steps rest
        return ⟨⟨node :: content.nodes, content.closing⟩, rest⟩

/-! ## Tags -/

/-- Reads a tag with its content and its closing tag. -/
def readTag (inner : Readers) (opened : List Text) (left : Text) : Except Failure (Taken Node) :=
  if (text "<>").isPrefixOf left then do
    let rest := left.drop 2
    let ⟨content, rest⟩ ← readContent inner ([] :: opened) rest.length rest
    return ⟨.fragment content.nodes content.closing, rest⟩
  else do
    let ⟨opening, rest⟩ ← readOpenTag inner left
    if opening.selfClosing || isVoid opening.name then
      return ⟨.tag opening [] none, rest⟩
    else if isRaw opening.name then
      match rawContent? opening.name rest with
      | none => .error (.fault (.unterminatedElement opening.name) left)
      | some (raw, closing, rest) =>
        return ⟨.tag opening (if raw.isEmpty then [] else [.text raw]) (some closing), rest⟩
    else
      let ⟨content, rest⟩ ← readContent inner (opening.name :: opened) rest.length rest
      return ⟨.tag opening content.nodes content.closing, rest⟩

/-- The readers for a number of levels of nesting. -/
def readers : (levels : Nat) → Readers
  | 0 => ⟨fun _ _ => .error .tooDeep, fun _ => .error .tooDeep⟩
  | levels + 1 => ⟨readTag (readers levels), readExpression (readers levels)⟩

/-- How many tags and expressions may be nested in each other: a tag takes two calls, one for
itself and one for its content, and an expression takes no more. -/
def nestingLimit : Nat := nestedCalls / 2

/-! ## Reading a page

A page may start with frontmatter: code between two fences, each a line of three
hyphens. Blanks may stand before the opening fence. What follows is content.
-/

/-- Cuts off the blanks that may follow a fence in its line. -/
def fenceBlanks (t : Text) : Text × Text := t.span fun c => c.isAmong [' ', '\t']

/-- Cuts off an opening fence with the end of its line. -/
def openingFence? (t : Text) : Option (Text × Text) := do
  let rest ← after? (text "---") t
  let (blanks, rest) := fenceBlanks rest
  match rest with
  | [] => some (text "---" ++ blanks, [])
  | .char '\n' :: rest => some (text "---" ++ blanks ++ text "\n", rest)
  | .char '\r' :: .char '\n' :: rest => some (text "---" ++ blanks ++ text "\r\n", rest)
  | _ => none

/-- Cuts off a closing fence at the start of a line. A carriage return belongs to it,
the line feed does not. -/
def closingFence? (t : Text) : Option (Text × Text) := do
  let rest ← after? (text "---") t
  let (blanks, rest) := fenceBlanks rest
  match rest with
  | [] | .char '\n' :: _ => some (text "---" ++ blanks, rest)
  | .char '\r' :: rest =>
    match rest with
    | [] | .char '\n' :: _ => some (text "---" ++ blanks ++ text "\r", rest)
    | _ => none
  | _ => none

/-- Cuts off everything up to the first closing fence and the fence. `lineStart` says
whether the text starts a line. -/
def throughClosingFence? : (lineStart : Bool) → Text → Option (Text × Text)
  | lineStart, t =>
    match if lineStart then closingFence? t else none with
    | some found => some found
    | none =>
      match t with
      | [] => none
      | c :: rest =>
        match throughClosingFence? (c = .char '\n') rest with
        | some (code, left) => some (c :: code, left)
        | none => none

/-- Reads the frontmatter of a page and the blanks before it. A page without
frontmatter loses nothing. -/
def readFrontmatter (page : Text) : Except Failure (Taken (List Node)) :=
  let (blanks, rest) := page.span CodePoint.isBlank
  match openingFence? rest with
  | none => .ok ⟨[], page⟩
  | some (fence, code) =>
    match throughClosingFence? (fence.getLast? = some (.char '\n')) code with
    | none => .error (.fault .unterminatedFence rest)
    | some (code, left) =>
      let leading := if blanks.isEmpty then [] else [Node.text blanks]
      .ok ⟨leading ++ [.frontmatter (fence ++ code)], left⟩

/-- Reads a page. With no tag open the content ends only where the page ends. -/
def readPage (page : Text) : Except Failure (List Node) := do
  let ⟨front, rest⟩ ← readFrontmatter page
  let ⟨content, _⟩ ← readContent (readers nestingLimit) [] rest.length rest
  return front ++ content.nodes

/-- Where a failure lies in a page. -/
def Failure.locate (page : Text) : Failure → ParseError
  | .tooDeep => .tooDeep
  | .fault cause left =>
    let passed : Text := page.take (page.length - left.length)
    .fault cause passed.width (passed.count (.char '\n') + 1)

/-- The nodes of a page, or why it cannot be read. -/
def nodesOf (page : Text) : Except ParseError (List Node) :=
  (readPage page).mapError (Failure.locate page)

end VisibleText.Markup
