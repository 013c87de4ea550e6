import VisibleText.Field.Basic
import VisibleText.Proofs.OpeningTag

/-!
# Revised documents

A revision gives one text, or one attribute, another value. In the document everything that starts
behind the old value moves by the difference of the widths, and nothing else changes
(`Document.revise`).

In the markup the same revision changes one leaf of the tree: a text, or what stands between the
quotes of an attribute (`Alters`). Laying out the altered markup gives the revised document
(`revise_nodesAt_of_alters`).
-/

set_option autoImplicit false

namespace VisibleText.Document

open VisibleText.Markup (Assignment Literal OpenTag Piece TagPart closingSource nodesSource
  partsSource piecesSource)

/-! ## Revisions -/

/-- A new value for the text or the attribute that stands at a position. -/
structure Revision where
  kind : FieldKind
  position : Nat
  /-- where the old value starts -/
  start : Nat
  old : Text
  new : Text

namespace Revision

/-- Where the old value ends. -/
def stop (r : Revision) : Nat := r.start + r.old.width

/-- Where something moves to that starts at a position. -/
def place (r : Revision) (n : Nat) : Nat :=
  if n < r.stop then n else n - r.old.width + r.new.width

/-- The value of a text or an attribute at a position behind the revision. -/
def valueOf (r : Revision) (kind : FieldKind) (position : Nat) (value : Text) : Text :=
  if kind = r.kind ∧ position = r.position ∧ value = r.old then r.new else value

end Revision

/-- An attribute behind a revision. -/
def Attribute.revise (r : Revision) (a : Attribute) : Attribute :=
  { a with value := r.valueOf .attribute a.position a.value, position := r.place a.position }

/-- What a tag says of itself behind a revision. -/
def Tag.revise (r : Revision) (t : Tag) : Tag :=
  { t with attributes := t.attributes.map (Attribute.revise r), position := r.place t.position }

mutual

/-- A node behind a revision. -/
def Node.revise (r : Revision) : Node → Node
  | .text value position => .text (r.valueOf .text position value) (r.place position)
  | .comment value position => .comment value (r.place position)
  | .doctype value position => .doctype value (r.place position)
  | .frontmatter value position => .frontmatter value (r.place position)
  | .expression children position => .expression (reviseAll r children) (r.place position)
  | .fragment children position => .fragment (reviseAll r children) (r.place position)
  | .tag opening children => .tag (opening.revise r) (reviseAll r children)

/-- Nodes behind a revision. -/
def reviseAll (r : Revision) : List Node → List Node
  | [] => []
  | node :: nodes => node.revise r :: reviseAll r nodes

end

/-- Whether a node is the text that a revision gives another value, or the tag of the attribute. -/
def Node.Bears (r : Revision) : Node → Prop
  | .text value position => r.kind = .text ∧ position = r.position ∧ value = r.old
  | .tag opening _ =>
    r.kind = .attribute ∧ ∃ a ∈ opening.attributes, a.position = r.position ∧ a.value = r.old
  | _ => False

end VisibleText.Document

namespace VisibleText

/-- A document behind a revision. -/
def Document.revise (r : Document.Revision) (d : Document) : Document :=
  ⟨Document.reviseAll r d.children⟩

end VisibleText

namespace VisibleText.Document

open VisibleText.Markup (Assignment Literal OpenTag Piece TagPart closingSource nodesSource
  partsSource piecesSource)

/-! ## What stands before and behind a revision -/

namespace Revision

/-- The old value is not empty, and does not start before what it is the value of. -/
structure Proper (r : Revision) : Prop where
  old_ne : r.old ≠ []
  position_le : r.position ≤ r.start

variable {r : Revision}

theorem Proper.position_lt (hr : r.Proper) : r.position < r.stop := by
  have hwidth := Text.width_pos hr.old_ne
  have hle := hr.position_le
  rw [stop]
  omega

theorem place_of_lt {n : Nat} (h : n < r.stop) : r.place n = n := if_pos h

theorem place_add {n : Nat} (h : r.stop ≤ n) (k : Nat) : r.place (n + k) = r.place n + k := by
  rw [place, place, if_neg (by omega), if_neg (by omega)]
  rw [stop] at h
  omega

theorem valueOf_of_ne {kind : FieldKind} {position : Nat} {value : Text}
    (h : position = r.position → value ≠ r.old) : r.valueOf kind position value = value :=
  if_neg fun hall => h hall.2.1 hall.2.2

theorem valueOf_of_lt {kind : FieldKind} {position : Nat} {value : Text}
    (h : r.position < position) : r.valueOf kind position value = value :=
  valueOf_of_ne fun heq => absurd heq (by omega)

end Revision

section Apart

variable {r : Revision}

/-- What stands in a part of a tag is the position of its attribute, and not less than its
value. -/
theorem attributeAt?_eq_some {position : Nat} {part : TagPart} {a : Attribute}
    (h : attributeAt? position part = some a) :
    a.position = position ∧ (a.value ≠ [] → part.source ≠ []) := by
  cases part with
  | blank | slash => cases h
  | code value =>
    simp only [attributeAt?] at h
    split at h
    · cases h
      exact ⟨rfl, fun _ => List.cons_ne_nil _ _⟩
    · cases h
      exact ⟨rfl, fun _ => List.cons_ne_nil _ _⟩
  | named name assignment =>
    cases assignment with
    | none =>
      cases h
      exact ⟨rfl, fun hne => absurd rfl hne⟩
    | some assignment =>
      cases h
      exact ⟨rfl, fun _ => by simp [TagPart.source, Assignment.source]⟩

theorem map_revise_attributeAt?_of_le (hr : r.Proper) (position : Nat) (part : TagPart)
    (h : position + part.source.width ≤ r.position) :
    (attributeAt? position part).map (Attribute.revise r) = attributeAt? position part := by
  cases hpart : attributeAt? position part with
  | none => rfl
  | some a =>
    obtain ⟨rfl, hsource⟩ := attributeAt?_eq_some hpart
    have hplace : r.place a.position = a.position :=
      Revision.place_of_lt (Nat.lt_of_le_of_lt (by omega) hr.position_lt)
    have hvalue : r.valueOf .attribute a.position a.value = a.value := by
      refine Revision.valueOf_of_ne fun hposition hold => ?_
      have hwidth := Text.width_pos (hsource (hold ▸ hr.old_ne))
      omega
    rw [Option.map_some, Attribute.revise, hplace, hvalue]

/-- The attributes before a revision stay as they are. -/
theorem map_revise_attributesAt_of_le (hr : r.Proper) (position : Nat) (parts : List TagPart)
    (h : position + (partsSource parts).width ≤ r.position) :
    (attributesAt position parts).map (Attribute.revise r) = attributesAt position parts := by
  induction parts generalizing position with
  | nil => rfl
  | cons part parts ih =>
    simp only [partsSource, List.flatMap_cons, Text.width_append] at h ih
    have hpart := map_revise_attributeAt?_of_le hr position part (by omega)
    have hparts := ih (position + part.source.width) (by omega)
    rw [attributesAt, List.map_append, ← Option.toList_map, hpart, hparts]

theorem map_revise_attributeAt?_of_stop_le (hr : r.Proper) {position : Nat} (part : TagPart)
    (h : r.stop ≤ position) :
    (attributeAt? position part).map (Attribute.revise r) =
      attributeAt? (r.place position) part := by
  have hvalue (value : Text) : r.valueOf .attribute position value = value :=
    Revision.valueOf_of_lt (Nat.lt_of_lt_of_le hr.position_lt h)
  cases part with
  | blank | slash => rfl
  | code value =>
    simp only [attributeAt?]
    split <;> simp only [Option.map_some, Attribute.revise, hvalue]
  | named name assignment =>
    cases assignment <;> simp only [attributeAt?, Option.map_some, Attribute.revise, hvalue]

/-- The attributes behind a revision move with it. -/
theorem map_revise_attributesAt_of_stop_le (hr : r.Proper) (position : Nat) (parts : List TagPart)
    (h : r.stop ≤ position) :
    (attributesAt position parts).map (Attribute.revise r) =
      attributesAt (r.place position) parts := by
  induction parts generalizing position with
  | nil => rfl
  | cons part parts ih =>
    rw [attributesAt, List.map_append, ← Option.toList_map,
      map_revise_attributeAt?_of_stop_le hr part h, ih _ (by omega), Revision.place_add h]
    rfl

theorem width_openTag (opening : OpenTag) : opening.source.width =
    1 + opening.name.width + (partsSource opening.parts).width + opening.ending.width := by
  have hbracket : (CodePoint.char '<').width = 1 := rfl
  rw [OpenTag.source, List.append_assoc, List.cons_append, Text.width_cons, Text.width_append,
    Text.width_append, hbracket]
  omega

theorem revise_tagAt_of_le (hr : r.Proper) {position : Nat} {opening : OpenTag}
    (h : position + opening.source.width ≤ r.position) :
    (tagAt position opening).revise r = tagAt position opening := by
  have hplace : r.place position = position :=
    Revision.place_of_lt (Nat.lt_of_le_of_lt (by omega) hr.position_lt)
  rw [width_openTag] at h
  have hattributes := map_revise_attributesAt_of_le hr (position + 1 + opening.name.width)
    opening.parts (by omega)
  simp only [Tag.revise, tagAt, hplace, hattributes]

theorem revise_tagAt_of_stop_le (hr : r.Proper) {position : Nat} (opening : OpenTag)
    (h : r.stop ≤ position) :
    (tagAt position opening).revise r = tagAt (r.place position) opening := by
  have hattributes := map_revise_attributesAt_of_stop_le hr (position + 1 + opening.name.width)
    opening.parts (by omega)
  rw [Nat.add_assoc, Revision.place_add h, ← Nat.add_assoc] at hattributes
  simp only [Tag.revise, tagAt, ← Nat.add_assoc] at hattributes ⊢
  rw [hattributes]

end Apart

theorem width_expression (pieces : List Piece) :
    (Markup.Node.expression pieces).source.width = 1 + (piecesSource pieces).width + 1 := by
  have hopen : (CodePoint.char '{').width = 1 := rfl
  have hclose : (CodePoint.char '}').width = 1 := rfl
  rw [Markup.Node.source, Markup.braced, List.cons_append, Text.width_cons, Text.width_append,
    Text.width_cons, Text.width_nil, hopen, hclose]
  omega

theorem width_fragment (children : List Markup.Node) (closing : Option Text) :
    (Markup.Node.fragment children closing).source.width =
      2 + (nodesSource children).width + (closingSource closing).width := by
  have hopen : (CodePoint.char '<').width = 1 := rfl
  have hclose : (CodePoint.char '>').width = 1 := rfl
  rw [Markup.Node.source, List.cons_append, List.cons_append, Text.width_cons, Text.width_cons,
    Text.width_append, hopen, hclose]
  omega

theorem width_tag (opening : OpenTag) (children : List Markup.Node) (closing : Option Text) :
    (Markup.Node.tag opening children closing).source.width =
      opening.source.width + (nodesSource children).width + (closingSource closing).width := by
  rw [Markup.Node.source, Text.width_append, Text.width_append]

mutual

/-- What stands before a revision stays as it is. -/
theorem revise_nodeAt_of_le {r : Revision} (hr : r.Proper) {position : Nat} (node : Markup.Node)
    (h : position + node.source.width ≤ r.position) :
    (nodeAt position node).revise r = nodeAt position node := by
  have hplace : r.place position = position :=
    Revision.place_of_lt (Nat.lt_of_le_of_lt (by omega) hr.position_lt)
  match node with
  | .text value =>
    have hvalue : r.valueOf .text position value = value := by
      refine Revision.valueOf_of_ne fun hposition hold => ?_
      have hwidth := Text.width_pos (hold ▸ hr.old_ne)
      simp only [Markup.Node.source] at h
      omega
    rw [nodeAt, Node.revise, hplace, hvalue]
  | .comment _ => rw [nodeAt, Node.revise, hplace]
  | .doctype _ => rw [nodeAt, Node.revise, hplace]
  | .frontmatter _ => rw [nodeAt, Node.revise, hplace]
  | .expression pieces =>
    rw [width_expression] at h
    rw [nodeAt, Node.revise, hplace, revise_piecesAt_of_le hr pieces (by omega)]
  | .fragment children closing =>
    rw [width_fragment] at h
    rw [nodeAt, Node.revise, hplace, revise_nodesAt_of_le hr children (by omega)]
  | .tag opening children closing =>
    rw [width_tag] at h
    rw [nodeAt, Node.revise, revise_tagAt_of_le hr (by omega),
      revise_nodesAt_of_le hr children (by omega)]

theorem revise_nodesAt_of_le {r : Revision} (hr : r.Proper) {position : Nat}
    (nodes : List Markup.Node) (h : position + (nodesSource nodes).width ≤ r.position) :
    reviseAll r (nodesAt position nodes) = nodesAt position nodes := by
  match nodes with
  | [] => rfl
  | node :: nodes =>
    rw [nodesSource, Text.width_append] at h
    rw [nodesAt, reviseAll, revise_nodeAt_of_le hr node (by omega),
      revise_nodesAt_of_le hr nodes (by omega)]

theorem revise_piecesAt_of_le {r : Revision} (hr : r.Proper) {position : Nat}
    (pieces : List Piece) (h : position + (piecesSource pieces).width ≤ r.position) :
    reviseAll r (piecesAt position pieces) = piecesAt position pieces := by
  match pieces with
  | [] => rfl
  | .code value :: pieces =>
    rw [piecesSource, Text.width_append, Piece.source] at h
    rw [piecesAt, revise_piecesAt_of_le hr pieces (by omega)]
  | .markup node :: pieces =>
    rw [piecesSource, Text.width_append, Piece.source] at h
    rw [piecesAt, reviseAll, revise_nodeAt_of_le hr node (by omega),
      revise_piecesAt_of_le hr pieces (by omega)]

end

mutual

/-- What stands behind a revision moves with it. -/
theorem revise_nodeAt_of_stop_le {r : Revision} (hr : r.Proper) {position : Nat}
    (node : Markup.Node) (h : r.stop ≤ position) :
    (nodeAt position node).revise r = nodeAt (r.place position) node := by
  match node with
  | .text value =>
    have hvalue : r.valueOf .text position value = value :=
      Revision.valueOf_of_lt (Nat.lt_of_lt_of_le hr.position_lt h)
    rw [nodeAt, Node.revise, hvalue, nodeAt]
  | .comment _ => rfl
  | .doctype _ => rfl
  | .frontmatter _ => rfl
  | .expression pieces =>
    rw [nodeAt, Node.revise, revise_piecesAt_of_stop_le hr pieces (by omega),
      Revision.place_add h, nodeAt]
  | .fragment children closing =>
    rw [nodeAt, Node.revise, revise_nodesAt_of_stop_le hr children (by omega),
      Revision.place_add h, nodeAt]
  | .tag opening children closing =>
    rw [nodeAt, Node.revise, revise_tagAt_of_stop_le hr opening h,
      revise_nodesAt_of_stop_le hr children (by omega), Revision.place_add h, nodeAt]

theorem revise_nodesAt_of_stop_le {r : Revision} (hr : r.Proper) {position : Nat}
    (nodes : List Markup.Node) (h : r.stop ≤ position) :
    reviseAll r (nodesAt position nodes) = nodesAt (r.place position) nodes := by
  match nodes with
  | [] => rfl
  | node :: nodes =>
    rw [nodesAt, reviseAll, revise_nodeAt_of_stop_le hr node h,
      revise_nodesAt_of_stop_le hr nodes (by omega), Revision.place_add h, nodesAt]

theorem revise_piecesAt_of_stop_le {r : Revision} (hr : r.Proper) {position : Nat}
    (pieces : List Piece) (h : r.stop ≤ position) :
    reviseAll r (piecesAt position pieces) = piecesAt (r.place position) pieces := by
  match pieces with
  | [] => rfl
  | .code value :: pieces =>
    rw [piecesAt, revise_piecesAt_of_stop_le hr pieces (by omega), Revision.place_add h, piecesAt]
  | .markup node :: pieces =>
    rw [piecesAt, reviseAll, revise_nodeAt_of_stop_le hr node h,
      revise_piecesAt_of_stop_le hr pieces (by omega), Revision.place_add h, piecesAt]

end

/-! ## Altered markup -/

/-- A quoted attribute with another value. -/
def QuotedAttribute.withValue (q : QuotedAttribute) (value : Text) : QuotedAttribute :=
  { q with value := value }

/-- The revision that gives a text another value. -/
def Revision.ofText (position : Nat) (old new : Text) : Revision :=
  ⟨.text, position, position, old, new⟩

/-- The revision that gives a quoted attribute another value. -/
def Revision.ofQuoted (q : QuotedAttribute) (new : Text) : Revision :=
  ⟨.attribute, q.position, q.valueStart, q.value, new⟩

mutual

/-- A node at a position, and what a revision makes of it. Expressions and raw content are left
alone, and there is no text right before a text that is revised: it would be read on into the new
value. -/
inductive Alters (r : Revision) : Nat → Markup.Node → Markup.Node → Prop
  | text {position : Nat} {old : Text} (revises : r = .ofText position old r.new) :
      Alters r position (.text old) (.text r.new)
  | quoted {position : Nat} {opening : OpenTag} {children : List Markup.Node}
      {closing : Option Text} (before after : List TagPart) (q : QuotedAttribute)
      (parts_eq : opening.parts = before ++ q.part :: after)
      (position_eq : q.position = partsPosition position opening + (partsSource before).width)
      (proper : q.quote.mark ∉ r.new) (revises : r = .ofQuoted q r.new) :
      Alters r position (.tag opening children closing)
        (.tag { opening with parts := before ++ (q.withValue r.new).part :: after } children
          closing)
  | child {position : Nat} {opening : OpenTag} {children children' : List Markup.Node}
      {closing : Option Text} (markup : Markup.isRaw opening.name = false)
      (inside : AltersAmong r (position + opening.source.width) children children') :
      Alters r position (.tag opening children closing) (.tag opening children' closing)
  | fragment {position : Nat} {children children' : List Markup.Node} {closing : Option Text}
      (inside : AltersAmong r (position + 2) children children') :
      Alters r position (.fragment children closing) (.fragment children' closing)

/-- Nodes from a position on, one of which is altered. -/
inductive AltersAmong (r : Revision) : Nat → List Markup.Node → List Markup.Node → Prop
  | head {position : Nat} {node node' : Markup.Node} {nodes : List Markup.Node}
      (first : Alters r position node node') :
      AltersAmong r position (node :: nodes) (node' :: nodes)
  | tail {position : Nat} {node : Markup.Node} {nodes nodes' : List Markup.Node}
      (apart : r.kind = .text → ∀ value, node = .text value → position + value.width ≠ r.start)
      (others : AltersAmong r (position + node.source.width) nodes nodes') :
      AltersAmong r position (node :: nodes) (node :: nodes')

end

/-- Two sources are the same but for the old value, which starts at the place of the revision, and
the new one. -/
def Revision.Splices (r : Revision) (position : Nat) (source source' : Text) : Prop :=
  ∃ front back : Text, source = front ++ r.old ++ back ∧ source' = front ++ r.new ++ back ∧
    position + front.width = r.start

namespace Revision.Splices

variable {r : Revision} {position : Nat} {source source' : Text}

theorem append (h : r.Splices position source source') (t : Text) :
    r.Splices position (source ++ t) (source' ++ t) := by
  obtain ⟨front, back, rfl, rfl, hstart⟩ := h
  exact ⟨front, back ++ t, by simp, by simp, hstart⟩

theorem prepend {s : Text} (h : r.Splices (position + s.width) source source') :
    r.Splices position (s ++ source) (s ++ source') := by
  obtain ⟨front, back, rfl, rfl, hstart⟩ := h
  refine ⟨s ++ front, back, by simp, by simp, ?_⟩
  rw [Text.width_append, ← hstart, Nat.add_assoc]

/-- What is behind both sources has moved. -/
theorem place_eq (h : r.Splices position source source') :
    r.place (position + source.width) = position + source'.width := by
  obtain ⟨front, back, rfl, rfl, hstart⟩ := h
  simp only [Text.width_append]
  rw [Revision.place, Revision.stop, if_neg (by omega)]
  omega

theorem stop_le (h : r.Splices position source source') : r.stop ≤ position + source.width := by
  obtain ⟨front, back, rfl, rfl, hstart⟩ := h
  simp only [Text.width_append]
  rw [Revision.stop]
  omega

end Revision.Splices

/-- With another value, a quoted attribute stays the same up to its opening quote. -/
theorem splices_part (q : QuotedAttribute) (new : Text) :
    (Revision.ofQuoted q new).Splices q.position q.part.source
      (q.withValue new).part.source :=
  ⟨q.head, [q.quote.mark], q.source_part, QuotedAttribute.source_part _, rfl⟩

theorem splices_openTag {position : Nat} {opening : OpenTag} {before after : List TagPart}
    {q : QuotedAttribute} (parts_eq : opening.parts = before ++ q.part :: after)
    (position_eq : q.position = partsPosition position opening + (partsSource before).width)
    (new : Text) :
    (Revision.ofQuoted q new).Splices position opening.source
      { opening with parts := before ++ (q.withValue new).part :: after }.source := by
  have hlead : Text.width (.char '<' :: opening.name ++ partsSource before) =
      1 + opening.name.width + (partsSource before).width := by
    have hbracket : (CodePoint.char '<').width = 1 := rfl
    rw [List.cons_append, Text.width_cons, Text.width_append, hbracket, Nat.add_assoc]
  have hsource (parts : List TagPart) (part : TagPart) (hparts : parts = before ++ part :: after) :
      OpenTag.source { opening with parts := parts } =
        (.char '<' :: opening.name ++ partsSource before) ++
          (part.source ++ (partsSource after ++ opening.ending)) := by
    simp [hparts, OpenTag.source, OpenTag.ending, partsSource]
  rw [partsPosition] at position_eq
  have hposition : q.position =
      position + Text.width (.char '<' :: opening.name ++ partsSource before) := by
    omega
  -- the tag is what stands before the part, the part, and what stands behind it
  have hpart := (splices_part q new).append (partsSource after ++ opening.ending)
  rw [hposition] at hpart
  have hopening := hpart.prepend
  rw [← hsource _ _ parts_eq, ← hsource _ _ rfl] at hopening
  exact hopening

mutual

theorem Alters.splices {r : Revision} {position : Nat} {node node' : Markup.Node}
    (h : Alters r position node node') : r.Splices position node.source node'.source := by
  match h with
  | .text revises =>
    rw [revises]
    refine ⟨[], [], ?_, ?_, rfl⟩ <;> simp [Revision.ofText, Markup.Node.source]
  | .quoted before after q parts_eq position_eq proper revises =>
    have hopening := splices_openTag parts_eq position_eq r.new
    rw [← revises] at hopening
    simp only [Markup.Node.source]
    exact (hopening.append _).append _
  | .child _ inside =>
    simp only [Markup.Node.source]
    exact inside.splices.prepend.append _
  | .fragment inside =>
    have hwidth : Text.width [.char '<', .char '>'] = 2 := rfl
    have hinside := inside.splices
    rw [← hwidth] at hinside
    exact hinside.prepend.append _

theorem AltersAmong.splices {r : Revision} {position : Nat} {nodes nodes' : List Markup.Node}
    (h : AltersAmong r position nodes nodes') :
    r.Splices position (nodesSource nodes) (nodesSource nodes') := by
  match h with
  | .head first => exact first.splices.append _
  | .tail _ others => exact others.splices.prepend

end

mutual

/-- What is revised does not stand before the altered markup. -/
theorem Alters.le_position {r : Revision} {position : Nat} {node node' : Markup.Node}
    (h : Alters r position node node') : position ≤ r.position := by
  match h with
  | .text revises =>
    rw [revises]
    exact Nat.le_refl _
  | .quoted before after q _ position_eq _ revises =>
    have hposition : r.position = q.position := congrArg Revision.position revises
    rw [partsPosition] at position_eq
    omega
  | .child _ inside =>
    have := inside.le_position
    omega
  | .fragment inside =>
    have := inside.le_position
    omega

theorem AltersAmong.le_position {r : Revision} {position : Nat} {nodes nodes' : List Markup.Node}
    (h : AltersAmong r position nodes nodes') : position ≤ r.position := by
  match h with
  | .head first => exact first.le_position
  | .tail _ others =>
    have := others.le_position
    omega

end

/-! ## The layout of altered markup -/

theorem attributesAt_append (position : Nat) (before after : List TagPart) :
    attributesAt position (before ++ after) =
      attributesAt position before ++
        attributesAt (position + (partsSource before).width) after := by
  induction before generalizing position with
  | nil => rfl
  | cons part before ih =>
    have hsource : partsSource (part :: before) = part.source ++ partsSource before := rfl
    rw [List.cons_append, attributesAt, ih, attributesAt, List.append_assoc, hsource,
      Text.width_append, ← Nat.add_assoc]

theorem bears_tagAt {r : Revision} {position : Nat} {opening : OpenTag}
    {before after : List TagPart} {q : QuotedAttribute}
    (parts_eq : opening.parts = before ++ q.part :: after)
    (position_eq : q.position = partsPosition position opening + (partsSource before).width)
    (revises : r = .ofQuoted q r.new) (children : List Node) :
    (Node.tag (tagAt position opening) children).Bears r := by
  have hposition : r.position = q.position := congrArg Revision.position revises
  have hold : r.old = q.value := congrArg Revision.old revises
  refine ⟨congrArg Revision.kind revises, ⟨q.name, q.value, .quoted, q.position⟩, ?_,
    hposition.symm, hold.symm⟩
  rw [tagAt, parts_eq, attributesAt_append, attributesAt, ← partsPosition, ← position_eq]
  exact List.mem_append_right _ (.head _)

mutual

/-- What is altered stands in the layout. -/
theorem Alters.exists_bears {r : Revision} {position : Nat} {node node' : Markup.Node}
    (h : Alters r position node node') : ∃ x ∈ (nodeAt position node).walk, x.Bears r := by
  match h with
  | .text revises =>
    exact ⟨_, .head _, congrArg Revision.kind revises, (congrArg Revision.position revises).symm,
      (congrArg Revision.old revises).symm⟩
  | .quoted before after q parts_eq position_eq _ revises =>
    exact ⟨_, .head _, bears_tagAt parts_eq position_eq revises _⟩
  | .child _ inside | .fragment inside =>
    obtain ⟨x, hx, hbears⟩ := inside.exists_bears
    exact ⟨x, .tail _ hx, hbears⟩

theorem AltersAmong.exists_bears {r : Revision} {position : Nat} {nodes nodes' : List Markup.Node}
    (h : AltersAmong r position nodes nodes') :
    ∃ x ∈ walkAll (nodesAt position nodes), x.Bears r := by
  match h with
  | .head first =>
    obtain ⟨x, hx, hbears⟩ := first.exists_bears
    exact ⟨x, List.mem_append_left _ hx, hbears⟩
  | .tail _ others =>
    obtain ⟨x, hx, hbears⟩ := others.exists_bears
    exact ⟨x, List.mem_append_right _ hx, hbears⟩

end

theorem revise_tagAt {r : Revision} (hr : r.Proper) {position : Nat} {opening : OpenTag}
    {before after : List TagPart} {q : QuotedAttribute}
    (parts_eq : opening.parts = before ++ q.part :: after)
    (position_eq : q.position = partsPosition position opening + (partsSource before).width)
    (revises : r = .ofQuoted q r.new) :
    (tagAt position opening).revise r = tagAt position
      { opening with parts := before ++ (q.withValue r.new).part :: after } := by
  have hposition : r.position = q.position := congrArg Revision.position revises
  rw [partsPosition] at position_eq
  have hplace {n : Nat} (h : n ≤ r.position) : r.place n = n :=
    Revision.place_of_lt (Nat.lt_of_le_of_lt h hr.position_lt)
  -- the parts before the value stay where they are, and those behind it move
  have hbefore := map_revise_attributesAt_of_le hr (position + 1 + opening.name.width) before
    (by omega)
  have hpart := splices_part q r.new
  rw [← revises] at hpart
  have hafter := map_revise_attributesAt_of_stop_le hr _ after hpart.stop_le
  rw [hpart.place_eq] at hafter
  have hvalue : r.valueOf .attribute q.position q.value = r.new := by
    rw [revises]
    exact if_pos ⟨rfl, rfl, rfl⟩
  have hq : (attributeAt? q.position q.part).map (Attribute.revise r) =
      attributeAt? q.position (q.withValue r.new).part := by
    simp only [QuotedAttribute.part, QuotedAttribute.withValue, attributeAt?, literalValue,
      Option.map_some, Attribute.revise, hvalue, hplace (Nat.le_of_eq hposition.symm)]
  have hattributes : (attributesAt (position + 1 + opening.name.width) opening.parts).map
      (Attribute.revise r) = attributesAt (position + 1 + opening.name.width)
        (before ++ (q.withValue r.new).part :: after) := by
    rw [parts_eq, attributesAt_append, attributesAt_append, attributesAt, attributesAt,
      ← position_eq, List.map_append, List.map_append, ← Option.toList_map, hbefore, hq, hafter]
  simp only [Tag.revise, tagAt, hplace (show position ≤ r.position by omega), hattributes]

mutual

/-- The layout of an altered node is that of the node, revised. -/
theorem revise_nodeAt_of_alters {r : Revision} (hr : r.Proper) {position : Nat}
    {node node' : Markup.Node} (h : Alters r position node node') :
    (nodeAt position node).revise r = nodeAt position node' := by
  have hplace : r.place position = position :=
    Revision.place_of_lt (Nat.lt_of_le_of_lt h.le_position hr.position_lt)
  match h with
  | @Alters.text _ _ old revises =>
    have hvalue : r.valueOf .text position old = r.new := by
      rw [revises]
      exact if_pos ⟨rfl, rfl, rfl⟩
    rw [nodeAt, Node.revise, hplace, hvalue, nodeAt]
  | .quoted before after q parts_eq position_eq proper revises =>
    have hopening := splices_openTag parts_eq position_eq r.new
    rw [← revises] at hopening
    rw [nodeAt, Node.revise, revise_tagAt hr parts_eq position_eq revises,
      revise_nodesAt_of_stop_le hr _ hopening.stop_le, hopening.place_eq, nodeAt]
  | .child _ inside =>
    have hle := inside.le_position
    rw [nodeAt, Node.revise, revise_tagAt_of_le hr hle, revise_nodesAt_of_alters hr inside, nodeAt]
  | .fragment inside =>
    rw [nodeAt, Node.revise, hplace, revise_nodesAt_of_alters hr inside, nodeAt]

theorem revise_nodesAt_of_alters {r : Revision} (hr : r.Proper) {position : Nat}
    {nodes nodes' : List Markup.Node} (h : AltersAmong r position nodes nodes') :
    reviseAll r (nodesAt position nodes) = nodesAt position nodes' := by
  match h with
  | .head first =>
    rw [nodesAt, reviseAll, revise_nodeAt_of_alters hr first,
      revise_nodesAt_of_stop_le hr _ first.splices.stop_le, first.splices.place_eq, nodesAt]
  | .tail _ others =>
    rw [nodesAt, reviseAll, revise_nodeAt_of_le hr _ others.le_position,
      revise_nodesAt_of_alters hr others, nodesAt]

end

end VisibleText.Document
