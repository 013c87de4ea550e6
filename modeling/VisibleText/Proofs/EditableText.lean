import VisibleText.Proofs.FieldPlace

/-!
# Text fields are the editable text

Which text of a document may be edited is said here without looking at a page or carrying
anything down the tree: a text node is editable if nothing around it is code, and if it is
more than blanks or stands directly in an element that is there to hold text and has no
other structure (`TextNode.isEditable`).

The fields that a page has for its text are exactly the editable text nodes of its document,
in their order, each in the place where its node stands (`textFields_eq_editable`). Both
directions come from one induction over the document, for which a place in the search for
fields must say the same as the nodes around it (`Place.Describes`).
-/

set_option autoImplicit false

namespace VisibleText.Field

open VisibleText.Document (Attribute Tag Node walkAll Covers Stands tiles_of_parse)

/-! ## Texts of a document -/

/-- A text node of a document, with the nodes around it, the innermost first. -/
structure TextNode where
  value : Text
  position : Nat
  ancestors : List Node

/-- The node of a text. -/
def TextNode.node (t : TextNode) : Node := .text t.value t.position

mutual

/-- The text nodes in a node that stands in the given nodes, in the order of the page. -/
def textsIn (ancestors : List Node) : Node → List TextNode
  | .text value position => [⟨value, position, ancestors⟩]
  | .comment _ _ => []
  | .doctype _ _ => []
  | .frontmatter _ _ => []
  | .expression children position =>
    textsAmong (.expression children position :: ancestors) children
  | .fragment children position => textsAmong (.fragment children position :: ancestors) children
  | .tag opening children => textsAmong (.tag opening children :: ancestors) children

/-- The text nodes in nodes that stand in the given nodes, in the order of the page. -/
def textsAmong (ancestors : List Node) : List Node → List TextNode
  | [] => []
  | node :: nodes => textsIn ancestors node ++ textsAmong ancestors nodes

end

/-- Whether a node is text. -/
def isText : Node → Bool
  | .text _ _ => true
  | _ => false

mutual

theorem textsIn_map_node (ancestors : List Node) (node : Node) :
    (textsIn ancestors node).map TextNode.node = node.walk.filter isText := by
  cases node with
  | text | comment | doctype | frontmatter => rfl
  | expression children position => exact textsAmong_map_node _ children
  | fragment children position => exact textsAmong_map_node _ children
  | tag opening children => exact textsAmong_map_node _ children

/-- The text nodes are what their name says, whatever they stand in. -/
theorem textsAmong_map_node (ancestors : List Node) (nodes : List Node) :
    (textsAmong ancestors nodes).map TextNode.node = (walkAll nodes).filter isText := by
  cases nodes with
  | nil => rfl
  | cons node nodes =>
    rw [textsAmong, walkAll, List.map_append, List.filter_append, textsIn_map_node,
      textsAmong_map_node]

end

theorem mem_walkAll_of_mem_textsAmong {ancestors nodes : List Node} {t : TextNode}
    (h : t ∈ textsAmong ancestors nodes) : t.node ∈ walkAll nodes := by
  have hnode : t.node ∈ (textsAmong ancestors nodes).map TextNode.node :=
    List.mem_map.2 ⟨t, h, rfl⟩
  rw [textsAmong_map_node] at hnode
  exact (List.mem_filter.1 hnode).1

/-! ## What may be edited -/

/-- Whether a node keeps what is in it from being edited: an expression, frontmatter, and the
elements that never hold editable text. -/
def isCode : Node → Bool
  | .expression _ _ => true
  | .frontmatter _ _ => true
  | .tag opening _ => isSkipped opening
  | _ => false

/-- Whether blank text counts where it stands directly in a node: in an element that is there
to hold text, if no tag and no expression stands beside the text. -/
def countsBlanks : Node → Bool
  | .tag opening children => isContentElement opening && !children.any isStructure
  | _ => false

/-- Whether a text may be edited. -/
def TextNode.isEditable (t : TextNode) : Bool :=
  !t.ancestors.any isCode && (!t.value.isBlank || t.ancestors.head?.any countsBlanks)

/-- The value of a text and the bytes that it takes. -/
def TextNode.spot (t : TextNode) : Text × ByteRange :=
  (t.value, ⟨t.position, t.value.bytes.length⟩)

/-- The value of a field and the bytes that it takes. -/
def spot (f : Field) : Text × ByteRange := (f.value, f.range)

/-- Whether a field is for text that is there, not for an attribute or an empty place. -/
def isFilledText (f : Field) : Bool := f.kind = .text && f.range.length ≠ 0

/-! ## Fields that are not for text -/

theorem exists_attributeFields? (g : Ground) (group : Text) (opening : Tag) {a : Attribute}
    (h : a.kind = .quoted → a.value.hasSurrogate = false) :
    ∃ own, attributeFields? g group opening a = some own ∧ ∀ f ∈ own, f.kind = .attribute := by
  unfold attributeFields?
  split
  · next heditable =>
    split
    · exact ⟨[], rfl, fun f hf => nomatch hf⟩
    · next start _ =>
      have hquoted : a.kind = .quoted := by
        simp only [isEditable, Bool.and_eq_true, decide_eq_true_eq] at heditable
        exact heditable.1.1
      rw [Ground.holds?, h hquoted]
      cases g.bytes.matchesAt start a.value with
      | false => exact ⟨[], rfl, fun f hf => nomatch hf⟩
      | true =>
        refine ⟨_, rfl, fun f hf => ?_⟩
        obtain rfl := List.mem_singleton.1 hf
        rfl
  · exact ⟨[], rfl, fun f hf => nomatch hf⟩

theorem exists_attributesFields? (g : Ground) (group : Text) (opening : Tag)
    {attributes : List Attribute}
    (h : ∀ a ∈ attributes, a.kind = .quoted → a.value.hasSurrogate = false) :
    ∃ own, attributesFields? g group opening attributes = some own ∧
      ∀ f ∈ own, f.kind = .attribute := by
  induction attributes with
  | nil => exact ⟨[], rfl, fun f hf => nomatch hf⟩
  | cons a attributes ih =>
    obtain ⟨first, hfirst, hkind⟩ := exists_attributeFields? g group opening (h a (.head _))
    obtain ⟨others, hothers, hkinds⟩ := ih fun a' ha' => h a' (.tail _ ha')
    refine ⟨first ++ others, by rw [attributesFields?, hfirst, hothers]; rfl, fun f hf => ?_⟩
    exact (List.mem_append.1 hf).elim (hkind f) (hkinds f)

theorem exists_ownFields? {g : Ground} {opening : Tag} {children : List Node}
    (hg : g.Agrees (.tag opening children)) (inside : Place) :
    ∃ own, ownFields? g inside opening = some own ∧ own.filter isFilledText = [] := by
  unfold ownFields?
  split
  · exact ⟨[], rfl, rfl⟩
  · obtain ⟨own, hown, hkind⟩ := exists_attributesFields? g inside.group opening hg
    refine ⟨own, hown, List.filter_eq_nil_iff.2 fun f hf => ?_⟩
    simp [isFilledText, hkind f hf]

theorem emptyField_filter (g : Ground) (inside : Place) (opening : Tag) (children : List Node) :
    (emptyField g inside opening children).filter isFilledText = [] := by
  unfold emptyField emptyFields
  split
  · split
    · rfl
    · split <;> rfl
  · rfl

/-! ## Places and the nodes around them -/

/-- A place in the search for fields says what the nodes around it say. -/
structure Place.Describes (p : Place) (ancestors : List Node) : Prop where
  skipped_eq : p.skipped = ancestors.any isCode
  keepsBlanks_eq : p.keepsBlanks = ancestors.head?.any countsBlanks

section Describes

variable {p : Place} {ancestors : List Node}

theorem describes_root (d : Document) :
    Place.Describes ⟨none, d.children.any isStructure, false, []⟩ [] := by
  refine ⟨rfl, ?_⟩
  simp [Place.keepsBlanks]

theorem Place.Describes.expression (children : List Node) (position : Nat) (group : Text) :
    Place.Describes ⟨none, children.any isStructure, true, group⟩
      (.expression children position :: ancestors) := by
  refine ⟨rfl, ?_⟩
  simp [Place.keepsBlanks, countsBlanks]

theorem Place.Describes.fragment (h : p.Describes ancestors) (children : List Node)
    (position : Nat) :
    Place.Describes ⟨none, children.any isStructure, p.skipped, p.group⟩
      (.fragment children position :: ancestors) := by
  refine ⟨h.skipped_eq, ?_⟩
  simp [Place.keepsBlanks, countsBlanks]

theorem Place.Describes.inside (h : p.Describes ancestors) (counts : LandmarkCounts)
    (opening : Tag) (children : List Node) :
    (p.inside counts opening children).Describes (.tag opening children :: ancestors) := by
  refine ⟨?_, ?_⟩
  · rw [List.any_cons, ← h.skipped_eq]
    exact Bool.or_comm _ _
  · simp [Place.keepsBlanks, Place.inside, countsBlanks, Bool.and_comm]

/-- Text that stands where it says has a field just if it may be edited. -/
theorem textFields?_eq {g : Ground} (h : p.Describes ancestors) {value : Text} {position : Nat}
    (hg : g.Agrees (.text value position)) :
    ∃ fields, textFields? g p value position = some fields ∧
      (fields.filter isFilledText).map spot =
        ((textsIn ancestors (.text value position)).filter TextNode.isEditable).map
          TextNode.spot := by
  obtain ⟨value_ne, holds⟩ := hg
  -- the search leaves out what the nodes around the text leave out
  have heditable : TextNode.isEditable ⟨value, position, ancestors⟩ =
      !(p.skipped || (value.isBlank && !p.keepsBlanks)) := by
    rw [TextNode.isEditable, h.skipped_eq, h.keepsBlanks_eq]
    cases ancestors.any isCode <;> cases value.isBlank <;>
      cases ancestors.head?.any countsBlanks <;> rfl
  unfold textFields?
  rw [textsIn]
  cases hout : p.skipped || (value.isBlank && !p.keepsBlanks) with
  | true =>
    rw [hout] at heditable
    exact ⟨[], rfl, by rw [List.filter_cons_of_neg (by simp [heditable])]; rfl⟩
  | false =>
    rw [hout] at heditable
    rw [if_neg Bool.false_ne_true, holds]
    refine ⟨_, rfl, ?_⟩
    have hfilled : ∀ label, isFilledText (ofText position label value p.group) = true := by
      intro label
      have hwidth : value.width ≠ 0 := Nat.ne_of_gt (Text.width_pos value_ne)
      simp [isFilledText, ofText, hwidth]
    rw [List.filter_cons_of_pos heditable, List.filter_cons_of_pos (hfilled _)]
    simp [spot, ofText, TextNode.spot, Text.length_bytes]

end Describes

/-! ## The search for fields -/

mutual

/-- The search succeeds at a node that agrees with the bytes, and finds the text of the node
that may be edited. -/
theorem nodeFields?_eq {g : Ground} {p : Place} {ancestors : List Node} {node : Node}
    (hnode : ∀ x ∈ node.walk, g.Agrees x) (hp : p.Describes ancestors)
    (counts : LandmarkCounts) :
    ∃ fields counts', nodeFields? g p counts node = some (fields, counts') ∧
      (fields.filter isFilledText).map spot =
        ((textsIn ancestors node).filter TextNode.isEditable).map TextNode.spot := by
  cases node with
  | text value position =>
    obtain ⟨fields, hfields, heq⟩ := textFields?_eq hp (hnode _ (.head _))
    exact ⟨fields, counts, by rw [nodeFields?, hfields]; rfl, heq⟩
  | comment | doctype | frontmatter => exact ⟨[], counts, rfl, rfl⟩
  | expression children position =>
    have hchildren := fun x hx => hnode x (.tail _ hx)
    exact nodesFields?_eq hchildren (.expression children position p.group) counts
  | fragment children position =>
    have hchildren := fun x hx => hnode x (.tail _ hx)
    exact nodesFields?_eq hchildren (hp.fragment children position) counts
  | tag opening children =>
    have hchildren := fun x hx => hnode x (.tail _ hx)
    obtain ⟨own, hown, hno⟩ := exists_ownFields? (hnode _ (.head _))
      (p.inside counts opening children)
    obtain ⟨inner, counts', hinner, heq⟩ := nodesFields?_eq hchildren
      (hp.inside counts opening children) (enterTag counts p.group opening.kind opening.name).2
    refine ⟨_, counts', by rw [nodeFields?_tag, hown, Option.bind_some, hinner]; rfl, ?_⟩
    -- neither the attributes nor the empty field of the tag are text that is there
    rw [List.filter_append, List.filter_append, hno, emptyField_filter, List.nil_append,
      List.append_nil, heq]
    rfl

theorem nodesFields?_eq {g : Ground} {p : Place} {ancestors nodes : List Node}
    (hnodes : ∀ x ∈ walkAll nodes, g.Agrees x) (hp : p.Describes ancestors)
    (counts : LandmarkCounts) :
    ∃ fields counts', nodesFields? g p counts nodes = some (fields, counts') ∧
      (fields.filter isFilledText).map spot =
        ((textsAmong ancestors nodes).filter TextNode.isEditable).map TextNode.spot := by
  cases nodes with
  | nil => exact ⟨[], counts, rfl, rfl⟩
  | cons node nodes =>
    have hhead := fun x hx => hnodes x (List.mem_append_left _ hx)
    have htail := fun x hx => hnodes x (List.mem_append_right _ hx)
    obtain ⟨first, counts₁, hfirst, hfirst_eq⟩ := nodeFields?_eq hhead hp counts
    obtain ⟨others, counts₂, hothers, hothers_eq⟩ := nodesFields?_eq htail hp counts₁
    refine ⟨first ++ others, counts₂, ?_, ?_⟩
    · simp only [nodesFields?, hfirst, hothers, Option.bind_eq_bind, Option.bind_some]
      rfl
    · rw [textsAmong, List.filter_append, List.filter_append, List.map_append, List.map_append,
        hfirst_eq, hothers_eq]

end

/-! ## The fields of a page -/

/-- The bytes at an editable text of a document are the bytes of its value. -/
theorem slice_spot_of_parse {source : Text} {d : Document} {t : TextNode}
    (hparse : Document.parse source = .ok d) (ht : t ∈ textsAmong [] d.children) :
    source.bytes.slice t.spot.2 = t.value.bytes := by
  obtain ⟨start, stop, hcovers⟩ :=
    (tiles_of_parse hparse).exists_of_mem_walkAll (mem_walkAll_of_mem_textsAmong ht)
  cases t with
  | mk value position ancestors =>
    cases hcovers with
    | text read stands value_ne =>
      rw [TextNode.spot, Text.length_bytes]
      exact stands.slice_eq

/-- The fields of a page for text that is there are exactly the editable text nodes of its
document, in their order: each has the value of its node, starts at the position of the node,
is as long as the bytes of the value, and the page has these bytes there. -/
theorem textFields_eq_editable (window : Int) {source : Text} {d : Document}
    (hsource : source.hasSurrogate = false) (hparse : Document.parse source = .ok d) :
    ∃ fields, ofPage window source = .ok fields ∧
      (fields.filter isFilledText).map spot =
        ((textsAmong [] d.children).filter TextNode.isEditable).map TextNode.spot ∧
      ∀ f ∈ fields.filter isFilledText, source.bytes.slice f.range = f.value.bytes := by
  obtain ⟨fields, counts, hfields, heq⟩ :=
    nodesFields?_eq (agrees_of_parse window hsource hparse) (describes_root d) []
  refine ⟨fields, ?_, heq, fun f hf => ?_⟩
  · unfold ofPage Text.encode? ofDocument?
    simp only [hparse, hsource, hfields, Bool.false_eq_true, if_false, Option.map_some]
  · have hspot : spot f ∈ ((textsAmong [] d.children).filter TextNode.isEditable).map
        TextNode.spot := heq ▸ List.mem_map.2 ⟨f, hf, rfl⟩
    obtain ⟨t, ht, hft⟩ := List.mem_map.1 hspot
    obtain ⟨hvalue, hrange⟩ := Prod.mk.inj hft
    rw [← hrange, ← hvalue]
    exact slice_spot_of_parse hparse (List.mem_filter.1 ht).1

/-- Text beside code, in code, and blank text that counts. -/
theorem textFields_eq_editable_of_paragraphs : ∃ (source : Text) (fields : List Field),
    source = text "<p>ä<b>ö</b> </p><pre>x</pre>{a && <i>y</i>}<span> </span>" ∧
      ofPage 2000 source = .ok fields ∧
      (fields.filter isFilledText).map spot =
        [(text "ä", ⟨3, 2⟩), (text "ö", ⟨8, 2⟩), (text " ", ⟨52, 1⟩)] ∧
      ∀ f ∈ fields.filter isFilledText, source.bytes.slice f.range = f.value.bytes := by
  have hrun : ((Document.parse
      (text "<p>ä<b>ö</b> </p><pre>x</pre>{a && <i>y</i>}<span> </span>")).map fun d =>
        ((textsAmong [] d.children).filter TextNode.isEditable).map TextNode.spot).toOption =
      some [(text "ä", ⟨3, 2⟩), (text "ö", ⟨8, 2⟩), (text " ", ⟨52, 1⟩)] := by
    decide +kernel
  obtain ⟨d, hparse, heditable⟩ := Markup.exists_of_map_eq_ok (Markup.eq_ok_of_toOption hrun)
  obtain ⟨fields, hfields, hspots, hbytes⟩ :=
    textFields_eq_editable 2000 (by decide +kernel) hparse
  exact ⟨_, fields, rfl, hfields, hspots.trans heditable, hbytes⟩

end VisibleText.Field
