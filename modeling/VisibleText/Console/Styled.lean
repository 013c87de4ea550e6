import VisibleText.Console.Emoji
import VisibleText.Console.Literal
import VisibleText.Console.Spanned
import VisibleText.Console.Style
import VisibleText.Text.Printable
import VisibleText.Text.Letter

/-!
# Styled text

Text for the console may hold tags in square brackets that switch styles on and off, and
names of emoji between colons. What is shown is the text without its tags. A backslash
before a tag makes it plain text. A tag that closes a style has to close one that is
open; it may write the style in another way than the tag that opened it.

The tag of an action has an `@` before its name, and says behind an equals sign what is
called and with which values.
-/

set_option autoImplicit false

namespace VisibleText.Console

/-! ## Emoji -/

/-- The endings of names that ask for one of two variants, with what is written behind
the emoji for them. -/
def variants : List (Text × Text) :=
  [(text "-emoji", [.char '\uFE0F']), (text "-text", [.char '\uFE0E'])]

/-- A name without the ending for a variant, and what that ending writes. -/
def splitVariant (name : Text) : Text × Text :=
  match variants.find? fun variant => name.endsWith variant.1 with
  | some variant => (name.take (name.length - variant.1.length), variant.2)
  | none => (name, [])

/-- What stands for a name between colons. -/
def emojiText? (name : Text) : Option Text :=
  let (name, variant) := splitVariant name
  (emoji? (Text.small name)).map (· ++ variant)

/-- The name between two colons, behind the first of them, and what follows the
second. -/
def colonName? (t : Text) : Option (Text × Text) :=
  let name := t.takeWhile fun c => !c.isBlank && !(c == .char ':')
  match t.drop name.length with
  | .char ':' :: rest => some (name, rest)
  | _ => none

/-- A text with emoji for their names. Every step takes a code point at least, so the
length of the text is steps enough. -/
def emojiFrom : (steps : Nat) → Text → Text
  | 0, t => t
  | _ + 1, [] => []
  | steps + 1, c :: t =>
    if c = .char ':' then
      match colonName? t with
      | some (name, rest) =>
        (emojiText? name).getD (c :: name ++ [c]) ++ emojiFrom steps rest
      | none => c :: emojiFrom steps t
    else c :: emojiFrom steps t

/-- A text with emoji for their names. -/
def withEmoji (t : Text) : Text := emojiFrom t.length t

/-! ## Tags -/

/-- A tag: its name and what stands behind an equals sign. -/
structure StyleTag where
  name : Text
  value : Option Text
deriving DecidableEq

namespace StyleTag

/-- The tag of what stands between the brackets. -/
def ofInner (inner : Text) : StyleTag :=
  match Text.cutAt? (text "=") inner with
  | some (name, value) => ⟨name, some value⟩
  | none => ⟨inner, none⟩

/-- A tag with its brackets. -/
def source (tag : StyleTag) : Text :=
  let value := (tag.value.map (text "=" ++ ·)).getD []
  text "[" ++ tag.name ++ value ++ text "]"

end StyleTag

/-- A piece of styled text, with its place. -/
inductive StyledPiece where
  | plain (t : Text)
  | tag (place : Nat) (tag : StyleTag)

/-- Whether a code point may follow the bracket that opens a tag. -/
def startsTag (c : CodePoint) : Bool :=
  c.isAmong ['#', '/', '@'] || (0x61 ≤ c.val && c.val ≤ 0x7A)

/-- The tag whose bracket a text starts with: what stands between the brackets, and what
follows. -/
def tagInner? : Text → Option (Text × Text)
  | .char '[' :: c :: t =>
    if startsTag c then
      let inner := t.takeWhile fun d => !d.isAmong ['[', ']']
      match t.drop inner.length with
      | .char ']' :: rest => some (c :: inner, rest)
      | _ => none
    else none
  | _ => none

/-- A tag behind so many backslashes at a place: two of them are one that is shown, and
one that is left makes the tag plain text. -/
def taggedPieces (place backslashes : Nat) (inner : Text) : List StyledPiece :=
  let shown := StyledPiece.plain (List.replicate (backslashes / 2) (.char '\\'))
  if backslashes % 2 = 1 then [shown, .plain (text "[" ++ inner ++ text "]")]
  else [shown, .tag (place + backslashes) (.ofInner inner)]

/-- The pieces of a text from a place on, behind plain text that was read, in
reverse. -/
def piecesFrom : (steps place : Nat) → (read : Text) → Text → List StyledPiece
  | 0, _, read, t => [.plain (read.reverse ++ t)]
  | _ + 1, _, read, [] => [.plain read.reverse]
  | steps + 1, place, read, c :: t =>
    let backslashes := ((c :: t).takeWhile (· == .char '\\')).length
    match tagInner? ((c :: t).drop backslashes) with
    | some (inner, rest) =>
      .plain read.reverse ::
        (taggedPieces place backslashes inner ++
          piecesFrom steps (place + backslashes + inner.length + 2) [] rest)
    | none =>
      if backslashes = 0 then piecesFrom steps (place + 1) (c :: read) t
      else
        let passed := (c :: t).take backslashes
        piecesFrom steps (place + backslashes) (passed ++ read) ((c :: t).drop backslashes)

/-- The pieces of a styled text. -/
def styledPieces (t : Text) : List StyledPiece := piecesFrom (t.length + 1) 0 [] t

/-! ## Tags that are open -/

/-- What is wrong with the tags of a text. -/
inductive StyleFault where
  /-- no style of that name is open -/
  | notOpen (place : Nat) (tag : StyleTag)
  /-- no style is open at all -/
  | nothingOpen (place : Nat)
  /-- a part of what is called by an action is no value -/
  | action (value part : Text) (fault : LiteralFault)
  /-- a color cannot be read -/
  | color (fault : ColorFault)
deriving DecidableEq

/-- The wording of a fault. -/
def StyleFault.message : StyleFault → Text
  | notOpen place tag =>
    text "closing tag '" ++ tag.source ++ text "' at position " ++ Text.ofNat place ++
      text " doesn't match any open tag"
  | nothingOpen place =>
    text "closing tag '[/]' at position " ++ Text.ofNat place ++
      text " has nothing to close"
  | action value part fault =>
    let place := if fault.isOfForm then quoted part ++ text " in " else []
    text "error parsing " ++ place ++ quoted value ++ text "; " ++ fault.message
  | color .emptyPart => text "invalid literal for int() with base 10: ''"

/-- A tag that is open. -/
structure OpenTag where
  /-- the place in the shown text -/
  first : Nat
  /-- the name in the normal form of styles -/
  name : Text
  value : Option Text

namespace OpenTag

/-- Whether the tag is the one of an action. -/
def isAction (tag : OpenTag) : Bool := tag.name.head? == some (.char '@')

/-- What an action calls its values with: all of it, unless a name stands before it. -/
def callPart (value : Text) : Text :=
  let name := value.takeWhile fun c => c.isWordPart || c == .char '.'
  let rest := value.drop name.length
  if rest.isEmpty then text "()"
  else if rest.head? = some (.char '(') && rest.getLast? = some (.char ')') &&
      !List.contains rest (.char '\n') then rest
  else value

/-- Why a closed tag is faulty, if it is. -/
def fault? (tag : OpenTag) : Option StyleFault :=
  match tag.isAction, tag.value with
  | true, some value =>
    if value.isEmpty then none
    else
      let part := callPart (Text.trim value)
      (literalFault? part).map (.action value part)
  | _, _ => none

/-- The style that a tag writes. -/
def style (tag : OpenTag) : Text :=
  match tag.value with
  | some value => tag.name ++ text " " ++ value
  | none => tag.name

/-- The span of a tag that ends at a place of the shown text. An action asks for no style. -/
def spanTo? (tag : OpenTag) (last : Nat) : Option Span :=
  if tag.isAction then none else some ⟨tag.first, last, tag.style⟩

end OpenTag

/-- What a tag closes: the tag and those that stay open. -/
def closeTag (opened : List OpenTag) (place : Nat) (tag : StyleTag) (name : Text) :
    Except StyleFault (OpenTag × List OpenTag) :=
  if Text.isBlank name then
    match opened with
    | [] => .error (.nothingOpen place)
    | closed :: opened => .ok (closed, opened)
  else do
    let name ← (Style.normalForm (Text.trim name)).mapError .color
    match opened.find? fun o => o.name = name with
    | none => .error (.notOpen place tag)
    | some closed => return (closed, opened.eraseP fun o => o.name = name)

/-! ## What is shown -/

/-- Plain text with brackets for brackets behind a backslash. -/
def withoutEscapes : Text → Text
  | .char '\\' :: .char '[' :: t => .char '[' :: withoutEscapes t
  | c :: t => c :: withoutEscapes t
  | [] => []

/-- The controls that a console leaves out. -/
def isLeftOut (c : CodePoint) : Bool := [0x07, 0x08, 0x0B, 0x0C, 0x0D].contains c.val

/-- A text without the controls that a console leaves out. -/
def withoutControls (t : Text) : Text := t.filter fun c => !isLeftOut c

/-- What is shown of plain text between tags. -/
def shownPlain (t : Text) : Text := withoutControls (withEmoji (withoutEscapes t))

/-- What is shown of pieces behind a text, while some tags are open; the one that was opened
last stands first. -/
def shownFrom (t : Text) (opened : List OpenTag) : List StyledPiece →
    Except StyleFault SpannedText
  | [] => .ok ⟨t, opened.filterMap fun tag => tag.spanTo? t.length⟩
  | .plain own :: pieces => shownFrom (t ++ shownPlain own) opened pieces
  | .tag place tag :: pieces =>
    match tag.name with
    | .char '/' :: name => do
      let (closed, opened) ← closeTag opened place tag name
      match closed.fault? with
      | some fault => .error fault
      | none =>
        let shown ← shownFrom t opened pieces
        return { shown with spans := (closed.spanTo? t.length).toList ++ shown.spans }
    | name => do
      let name ← (Style.normalForm name).mapError .color
      shownFrom t (⟨t.length, name, tag.value⟩ :: opened) pieces

/-- What is shown of a styled text. -/
def shownText (t : Text) : Except StyleFault SpannedText :=
  if List.contains t (.char '[') then shownFrom [] [] (styledPieces t)
  else .ok (.plain (withoutControls (withEmoji t)))

/-- Checks that all spans of a text ask for styles that can be shown. -/
def checkStyles (s : SpannedText) : Except StyleFault Unit :=
  s.spans.forM fun span => (Style.check span.style).mapError .color

end VisibleText.Console
