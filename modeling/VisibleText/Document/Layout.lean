import VisibleText.Markup.Reader
import VisibleText.Text.Search

/-!
# Documents

The tree of a page as editors see it: every node with the byte position where it
starts, without the blanks and closing tags that only matter for writing the page
out. A document does not depend on the page that it came from, so its positions can
be checked against any bytes.
-/

set_option autoImplicit false

namespace VisibleText.Document

/-- How the value of an attribute is written. -/
inductive AttributeKind where
  | quoted
  | empty
  | expression
  | templateLiteral
  | unquoted
  | spread
  | shorthand
deriving DecidableEq

/-- An attribute of an element, or a property of a component. Its position is that of
its name, or of the brace if it has none. -/
structure Attribute where
  name : Text
  value : Text
  kind : AttributeKind
  position : Nat
deriving DecidableEq

/-- Whether a tag is an element of the markup or a component of the project. -/
inductive TagKind where
  | element
  | component
deriving DecidableEq

/-- What a tag says about itself. Its position is that of its angle bracket. -/
structure Tag where
  kind : TagKind
  name : Text
  attributes : List Attribute
  position : Nat
  selfClosing : Bool
deriving DecidableEq

/-- A node of a document. -/
inductive Node where
  | text (value : Text) (position : Nat)
  | comment (value : Text) (position : Nat)
  | doctype (value : Text) (position : Nat)
  | frontmatter (value : Text) (position : Nat)
  | expression (children : List Node) (position : Nat)
  | fragment (children : List Node) (position : Nat)
  | tag (opening : Tag) (children : List Node)

end VisibleText.Document

namespace VisibleText

/-- A document, with its nodes in order. -/
structure Document where
  children : List Document.Node

end VisibleText

namespace VisibleText.Document

/-- Where a node starts. -/
def Node.position : Node → Nat
  | .text _ position => position
  | .comment _ position => position
  | .doctype _ position => position
  | .frontmatter _ position => position
  | .expression _ position => position
  | .fragment _ position => position
  | .tag opening _ => opening.position

/-- The nodes in a node. -/
def Node.children : Node → List Node
  | .expression children _ => children
  | .fragment children _ => children
  | .tag _ children => children
  | _ => []

mutual

/-- A node and everything in it, in the order of the page. -/
def Node.walk : Node → List Node
  | .expression children position => .expression children position :: walkAll children
  | .fragment children position => .fragment children position :: walkAll children
  | .tag opening children => .tag opening children :: walkAll children
  | node => [node]

/-- Some nodes and everything in them, in the order of the page. -/
def walkAll : List Node → List Node
  | [] => []
  | node :: nodes => node.walk ++ walkAll nodes

end

end VisibleText.Document

namespace VisibleText

/-- All nodes of a document, in the order of the page. -/
def Document.nodes (d : Document) : List Document.Node := Document.walkAll d.children

end VisibleText

namespace VisibleText.Document

open VisibleText.Markup (Piece TagPart Literal OpenTag)

/-! ## The layout of a page

Positions come from widths: a node starts behind everything that is written before
it. Laying out a tree of markup gives the document of the page.
-/

/-- The value and the kind of an attribute. -/
def literalValue : Literal → Text × AttributeKind
  | .missing => ([], .empty)
  | .quoted _ value => (value, .quoted)
  | .template value => (value, .templateLiteral)
  | .code value => (value, .expression)
  | .bare value => (value, .unquoted)

/-- The attribute that a part of a tag is, when the part stands at a position. Code
that starts with three dots spreads what follows them. -/
def attributeAt? (position : Nat) : TagPart → Option Attribute
  | .blank _ => none
  | .slash => none
  | .named name none => some ⟨name, [], .empty, position⟩
  | .named name (some assignment) =>
    let (value, kind) := literalValue assignment.literal
    some ⟨name, value, kind, position⟩
  | .code value =>
    match Text.after? (text "...") value.trim with
    | some spread => some ⟨spread.trim, value, .spread, position⟩
    | none => some ⟨value.trim, value, .shorthand, position⟩

/-- The attributes among the parts of a tag, when the parts stand at a position. -/
def attributesAt (position : Nat) : List TagPart → List Attribute
  | [] => []
  | part :: parts =>
    (attributeAt? position part).toList ++ attributesAt (position + part.source.width) parts

/-- What an opening tag at a position says about its tag. -/
def tagAt (position : Nat) (opening : OpenTag) : Tag where
  kind := if Markup.isComponentName opening.name then .component else .element
  name := opening.name
  attributes := attributesAt (position + 1 + opening.name.width) opening.parts
  position := position
  selfClosing := opening.selfClosing

mutual

/-- The node that a piece of markup at a position is. -/
def nodeAt (position : Nat) : Markup.Node → Node
  | .text value => .text value position
  | .comment value => .comment value position
  | .doctype inner => .doctype inner.trim position
  | .frontmatter value => .frontmatter value position
  | .expression pieces => .expression (piecesAt (position + 1) pieces) position
  | .tag opening children _ =>
    .tag (tagAt position opening) (nodesAt (position + opening.source.width) children)
  | .fragment children _ => .fragment (nodesAt (position + 2) children) position

/-- The nodes that markup from a position on is. -/
def nodesAt (position : Nat) : List Markup.Node → List Node
  | [] => []
  | node :: nodes => nodeAt position node :: nodesAt (position + node.source.width) nodes

/-- The nodes in the pieces of an expression from a position on. -/
def piecesAt (position : Nat) : List Piece → List Node
  | [] => []
  | .code value :: pieces => piecesAt (position + value.width) pieces
  | .markup node :: pieces => nodeAt position node :: piecesAt (position + node.source.width) pieces

end

end VisibleText.Document

namespace VisibleText

open VisibleText.Markup (ParseError)

/-- The document that the markup of a page is. -/
def Document.ofMarkup (nodes : List Markup.Node) : Document := ⟨Document.nodesAt 0 nodes⟩

/-- Reads the document of a page. -/
def Document.parse (page : Text) : Except ParseError Document :=
  (Markup.nodesOf page).map Document.ofMarkup

end VisibleText
