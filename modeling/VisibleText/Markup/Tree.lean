import VisibleText.Text.CodePoint
import VisibleText.Text.Printable

/-!
# Markup as it is written

The tree of a page that keeps everything that was written: every blank, every
quote, every closing tag. Writing the tree out again gives the page back
(`Node.source`), so the range of each node is known from the widths of what comes
before it, and a change of one value changes nothing else.

An element that another closing tag ended has no closing tag of its own; the same
holds for one that cannot have content.
-/

set_option autoImplicit false

namespace VisibleText.Markup

/-! ## Opening tags -/

/-- The quotes that may enclose the value of an attribute. -/
inductive Quote where
  | double
  | single
deriving DecidableEq

/-- The character of a quote. -/
def Quote.mark : Quote → CodePoint
  | double => .char '"'
  | single => .char '\''

/-- What stands after the equals sign of an attribute. -/
inductive Literal where
  /-- nothing that could be a value -/
  | missing
  | quoted (quote : Quote) (value : Text)
  /-- a value between backticks -/
  | template (value : Text)
  /-- code between braces -/
  | code (value : Text)
  | bare (value : Text)

/-- The equals sign of an attribute with the blanks around it, and the value. -/
structure Assignment where
  blankBefore : Text
  blankAfter : Text
  literal : Literal

/-- A part of an opening tag. -/
inductive TagPart where
  | blank (blanks : Text)
  /-- a slash that does not end the tag -/
  | slash
  | named (name : Text) (assignment : Option Assignment)
  /-- code between braces in the place of an attribute -/
  | code (value : Text)

/-- An opening tag. -/
structure OpenTag where
  name : Text
  parts : List TagPart
  selfClosing : Bool

/-- Text between braces. -/
def braced (code : Text) : Text := .char '{' :: code ++ [.char '}']

/-- A value as it is written. -/
def Literal.source : Literal → Text
  | missing => []
  | quoted quote value => quote.mark :: value ++ [quote.mark]
  | template value => .char '`' :: value ++ [.char '`']
  | .code value => braced value
  | bare value => value

/-- An assignment as it is written. -/
def Assignment.source (a : Assignment) : Text :=
  a.blankBefore ++ .char '=' :: a.blankAfter ++ a.literal.source

/-- A part of a tag as it is written. -/
def TagPart.source : TagPart → Text
  | .blank blanks => blanks
  | .slash => [.char '/']
  | .named name none => name
  | .named name (some assignment) => name ++ assignment.source
  | .code value => braced value

/-- The parts of a tag as they are written. -/
def partsSource (parts : List TagPart) : Text := parts.flatMap TagPart.source

/-- The end of an opening tag. -/
def OpenTag.ending (t : OpenTag) : Text := if t.selfClosing then text "/>" else text ">"

/-- An opening tag as it is written. -/
def OpenTag.source (t : OpenTag) : Text := .char '<' :: t.name ++ partsSource t.parts ++ t.ending

/-! ## Nodes -/

mutual

/-- A piece of a page. -/
inductive Node where
  | text (value : Text)
  | comment (value : Text)
  | doctype (inner : Text)
  /-- the code between two fences at the top of a page, fences included -/
  | frontmatter (value : Text)
  | expression (pieces : List Piece)
  /-- an element or a component; `closing` is what its closing tag holds -/
  | tag (opening : OpenTag) (children : List Node) (closing : Option Text)
  /-- a tag without a name -/
  | fragment (children : List Node) (closing : Option Text)

/-- A piece of an expression: code, or markup within the code. -/
inductive Piece where
  | code (value : Text)
  | markup (node : Node)

end

/-- A closing tag as it is written. -/
def closingSource : Option Text → Text
  | none => []
  | some inner => .char '<' :: .char '/' :: inner ++ [.char '>']

mutual

/-- A node as it is written. -/
def Node.source : Node → Text
  | .text value => value
  | .comment value => VisibleText.text "<!--" ++ value ++ VisibleText.text "-->"
  | .doctype inner => .char '<' :: .char '!' :: inner ++ [.char '>']
  | .frontmatter value => value
  | .expression pieces => braced (piecesSource pieces)
  | .tag opening children closing =>
    opening.source ++ nodesSource children ++ closingSource closing
  | .fragment children closing =>
    .char '<' :: .char '>' :: nodesSource children ++ closingSource closing

/-- Nodes as they are written, one after the other. -/
def nodesSource : List Node → Text
  | [] => []
  | n :: ns => n.source ++ nodesSource ns

/-- A piece of an expression as it is written. -/
def Piece.source : Piece → Text
  | .code value => value
  | .markup node => node.source

/-- Pieces of an expression as they are written, one after the other. -/
def piecesSource : List Piece → Text
  | [] => []
  | p :: ps => p.source ++ piecesSource ps

end

/-! ## Why a page cannot be read

A fault names the construct that is wrong. While a page is being read, a fault
comes with what was left to read where that construct starts; `ParseError` says the
same as a byte offset and a line of the page.
-/

/-- What is wrong in a page. -/
inductive Fault where
  | unterminatedFence
  | unterminatedComment
  | unterminatedDoctype
  | unterminatedClosingTag
  | unexpectedClosingTag (name : Text)
  | unterminatedOpeningTag
  /-- an element with raw content is not closed -/
  | unterminatedElement (name : Text)
  | unexpectedCharacter (c : CodePoint)
  | unterminatedValue (name : Text)
  | unterminatedCodeComment
  | unterminatedString
  | unterminatedExpression
deriving DecidableEq

/-- The wording of a fault. -/
def Fault.message : Fault → Text
  | unterminatedFence => text "Unterminated frontmatter fence"
  | unterminatedComment => text "Unterminated comment"
  | unterminatedDoctype => text "Unterminated doctype"
  | unterminatedClosingTag => text "Unterminated closing tag"
  | unexpectedClosingTag name => text "Unexpected closing tag </" ++ name ++ text ">"
  | unterminatedOpeningTag => text "Unterminated opening tag"
  | unterminatedElement name => text "Unterminated <" ++ name ++ text "> element"
  | unexpectedCharacter c => text "Unexpected character " ++ quoted [c] ++ text " in opening tag"
  | unterminatedValue name => text "Unterminated value for attribute '" ++ name ++ text "'"
  | unterminatedCodeComment => text "Unterminated comment in expression"
  | unterminatedString => text "Unterminated string in expression"
  | unterminatedExpression => text "Unterminated expression"

/-- Why reading stopped. -/
inductive Failure where
  /-- a fault, and what was left to read where the faulty construct starts -/
  | fault (cause : Fault) (left : Text)
  /-- tags and expressions are nested too deeply -/
  | tooDeep
deriving DecidableEq

/-- Why a page cannot be read, and where. -/
inductive ParseError where
  | fault (cause : Fault) (offset line : Nat)
  | tooDeep
deriving DecidableEq

namespace ParseError

/-- The byte offset of the construct that is wrong, if there is one. -/
def offset? : ParseError → Option Nat
  | fault _ offset _ => some offset
  | tooDeep => none

/-- The line of the construct that is wrong, if there is one. -/
def line? : ParseError → Option Nat
  | fault _ _ line => some line
  | tooDeep => none

/-- The wording of an error. -/
def message : ParseError → Text
  | fault cause offset line =>
    cause.message ++ text " at line " ++ Text.ofNat line ++ text " (byte " ++ Text.ofNat offset ++
      text ")"
  | tooDeep => text "Template nesting too deep to parse"

end ParseError

end VisibleText.Markup
