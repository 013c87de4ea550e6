import VisibleText.Document.Layout
import VisibleText.Field.Basic
import VisibleText.Field.OpenTag

/-!
# The fields of a page

Fields are the text between tags, the values of some attributes, and the empty places
in elements that are there to hold text. What is code is left out: expressions,
frontmatter, and a few elements with all that is in them.

Every field is compared with the bytes of the page before it counts. A node whose
place does not hold its own text gives no field, so no edit can hit bytes that are
not text.
-/

set_option autoImplicit false

namespace VisibleText.Field

open VisibleText.Document (Attribute Tag TagKind)

/-! ## Groups of fields

Fields are grouped by the innermost landmark element around them. The first element of
a landmark's name has that name as its group, and the following ones a number as
well. Fields outside all landmarks belong to the group with the empty name.
-/

/-- The elements that set off a part of a page. -/
def landmarks : List Text :=
  ["header", "section", "footer", "nav", "main", "article", "aside"].map text

/-- How many landmarks of each name have been entered. -/
abbrev LandmarkCounts := List (Text × Nat)

/-- How many landmarks of a name have been entered. -/
def LandmarkCounts.of (counts : LandmarkCounts) (name : Text) : Nat :=
  (List.lookup name counts).getD 0

/-- The group of a landmark that is the `n`-th of its name. -/
def landmarkGroup (name : Text) (n : Nat) : Text :=
  if n = 1 then name else name ++ text ":" ++ Text.ofNat n

/-- The group inside a tag, and the counts behind its start. A tag that is no landmark
element keeps the group that it is in. -/
def enterTag (counts : LandmarkCounts) (group : Text) (kind : TagKind) (name : Text) :
    Text × LandmarkCounts :=
  if kind = .element && landmarks.contains name then
    let n := counts.of name + 1
    (landmarkGroup name n, (name, n) :: counts)
  else
    (group, counts)

/-! ## What may be edited -/

/-- Elements that never hold editable text. -/
def skippedElements : List Text := ["script", "style", "head", "code", "pre"].map text

/-- Attributes of elements that hold text for readers. -/
def editableAttributes : List Text :=
  ["alt", "title", "placeholder", "aria-label", "aria-description"].map text

/-- Properties of components that hold text for readers. -/
def editableProperties : List Text :=
  ["title", "subtitle", "heading", "description", "label", "text", "cta", "alt",
    "placeholder"].map text

/-- Elements that are there to hold text: blank text in them counts, and an empty one
is a place for text. -/
def contentElements : List Text :=
  ["h1", "h2", "h3", "h4", "h5", "h6", "p", "a", "button", "label", "span", "li", "td", "th",
    "figcaption", "blockquote", "dt", "dd"].map text

/-- A shorter value of an attribute is no text for readers. -/
def leastAttributeLength : Nat := 2

/-- Whether a tag is an element that never holds editable text. -/
def isSkipped (t : Tag) : Bool :=
  t.kind = .element && skippedElements.contains (Markup.smallName t.name)

/-- Whether a tag is an element that is there to hold text. -/
def isContentElement (t : Tag) : Bool := t.kind = .element && contentElements.contains t.name

/-- Whether an attribute of a tag holds text for readers. -/
def isEditable (t : Tag) (a : Attribute) : Bool :=
  let names :=
    match t.kind with
    | .element => editableAttributes
    | .component => editableProperties
  a.kind = .quoted && names.contains a.name && leastAttributeLength ≤ (Text.trim a.value).length

/-- Whether a node is a tag or an expression. Blank text beside one is only there for
the layout. -/
def isStructure : Document.Node → Bool
  | .tag _ _ => true
  | .expression _ _ => true
  | _ => false

/-! ## Walking a document -/

/-- Where a node stands. -/
structure Place where
  /-- the tag that the node stands in, if that is what it stands in -/
  parent : Option Tag
  /-- whether a tag or an expression stands beside the node -/
  besideStructure : Bool
  /-- whether the node stands in something that is left out -/
  skipped : Bool
  group : Text

/-- What the fields of a document are looked for in. -/
structure Ground where
  bytes : Bytes
  /-- how many bytes an opening tag may take -/
  window : Int

/-- Whether blank text at a place counts. -/
def Place.keepsBlanks (p : Place) : Bool :=
  !p.besideStructure && p.parent.any isContentElement

/-- Compares a place in the bytes with a value; a value that has no bytes cannot be
compared. -/
def Ground.holds? (g : Ground) (start : Nat) (value : Text) : Option Bool :=
  if value.hasSurrogate then none else some (g.bytes.matchesAt start value)

/-- The field of text at a place. -/
def textFields? (g : Ground) (p : Place) (value : Text) (start : Nat) : Option (List Field) :=
  if p.skipped || (value.isBlank && !p.keepsBlanks) then some []
  else do
    if ← g.holds? start value then
      let label :=
        match p.parent with
        | some tag => tag.name ++ text " text"
        | none => text "text"
      return [ofText start label value p.group]
    else
      return []

/-- The field of one attribute of a tag. -/
def attributeFields? (g : Ground) (group : Text) (t : Tag) (a : Attribute) :
    Option (List Field) :=
  if isEditable t a then
    match g.bytes.valueStart? g.window t.position a.name.bytes a.position with
    | none => some []
    | some start => do
      if ← g.holds? start a.value then return [ofAttribute start t.name a.name a.value group]
      else return []
  else some []

/-- The fields of the attributes of a tag. -/
def attributesFields? (g : Ground) (group : Text) (t : Tag) : List Attribute → Option (List Field)
  | [] => some []
  | a :: attributes => do
    let first ← attributeFields? g group t a
    let others ← attributesFields? g group t attributes
    return first ++ others

/-- The field of an empty element that is there to hold text: no bytes, at the end of
its opening tag. -/
def emptyFields (g : Ground) (group : Text) (t : Tag) : List Field :=
  if t.selfClosing then []
  else
    match g.bytes.openTagEnd? g.window t.position with
    | none => []
    | some start => [ofText start (t.name ++ text " text") [] group]

mutual

/-- The fields of a node, and the landmarks entered behind it; `none` if some value
could not be compared with the bytes. -/
def nodeFields? (g : Ground) (p : Place) (counts : LandmarkCounts) :
    Document.Node → Option (List Field × LandmarkCounts)
  | .text value start => (textFields? g p value start).map fun fields => (fields, counts)
  | .comment _ _ => some ([], counts)
  | .doctype _ _ => some ([], counts)
  | .frontmatter _ _ => some ([], counts)
  | .expression children _ =>
    nodesFields? g ⟨none, children.any isStructure, true, p.group⟩ counts children
  | .fragment children _ =>
    nodesFields? g ⟨none, children.any isStructure, p.skipped, p.group⟩ counts children
  | .tag opening children => do
    let skipped := p.skipped || isSkipped opening
    let (group, counts) := enterTag counts p.group opening.kind opening.name
    let own ← if skipped then some [] else attributesFields? g group opening opening.attributes
    let place := ⟨some opening, children.any isStructure, skipped, group⟩
    let (inner, counts) ← nodesFields? g place counts children
    let empty :=
      if !skipped && isContentElement opening && children.isEmpty then emptyFields g group opening
      else []
    return (own ++ inner ++ empty, counts)

/-- The fields of nodes that stand at one place, and the landmarks entered behind
them. -/
def nodesFields? (g : Ground) (p : Place) (counts : LandmarkCounts) :
    List Document.Node → Option (List Field × LandmarkCounts)
  | [] => some ([], counts)
  | node :: nodes => do
    let (first, counts) ← nodeFields? g p counts node
    let (others, counts) ← nodesFields? g p counts nodes
    return (first ++ others, counts)

end

/-- The fields of a document in the bytes of a page, in the order of the document. -/
def ofDocument? (g : Ground) (d : Document) : Option (List Field) :=
  let place := ⟨none, d.children.any isStructure, false, []⟩
  (nodesFields? g place [] d.children).map Prod.fst

/-! ## Where opening tags are scanned

To find the fields of a page, an opening tag is scanned once for every attribute that may
be edited, and once if it belongs to an empty element that is there to hold text.
-/

/-- The places from which the opening tag of a tag is scanned. -/
def tagScans (t : Tag) (isEmpty : Bool) : List Nat :=
  ((t.attributes.filter (isEditable t)).map fun _ => t.position) ++
    if isContentElement t && isEmpty && !t.selfClosing then [t.position] else []

mutual

/-- The places from which tags are scanned in a node. -/
def nodeScans (skipped : Bool) : Document.Node → List Nat
  | .expression children _ => nodesScans true children
  | .fragment children _ => nodesScans skipped children
  | .tag opening children =>
    let skipped := skipped || isSkipped opening
    (if skipped then [] else tagScans opening children.isEmpty) ++ nodesScans skipped children
  | _ => []

/-- The places from which tags are scanned in some nodes. -/
def nodesScans (skipped : Bool) : List Document.Node → List Nat
  | [] => []
  | node :: nodes => nodeScans skipped node ++ nodesScans skipped nodes

end

/-- The places from which the tags of a document are scanned. -/
def scans (d : Document) : List Nat := nodesScans false d.children

end VisibleText.Field
