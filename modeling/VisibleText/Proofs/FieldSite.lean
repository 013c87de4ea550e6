import VisibleText.Proofs.EditableText
import VisibleText.Proofs.OpeningTag

/-!
# What fields are found for

A field is found for a text, for a quoted attribute, or for an empty element. The sites of a page
are these, in the order of the page and with all that was read of them (`sitesOf`), so that a site
knows the bytes that belong to it (`Site.ownRange`), while its field only knows where the search
for it ended.

The fields of a page are the fields of its sites (`ofPage_eq_sites`): every site gives the field
that the search finds for it, or none (`Site.field?`). Every site stands in the page as it was
read (`standsIn_of_mem_sitesOf`).
-/

set_option autoImplicit false

namespace VisibleText.Field

open VisibleText.Document (Attribute Tag QuotedAttribute attributesAt quotedAttributesAt nodeAt
  nodesAt partsPosition piecesAt tagAt walkAll)
open VisibleText.Markup (OpenTag Piece Reads ReadsAll ReadsPieces)

/-! ## Sites -/

/-- What a field is found for, with the group that it belongs to. -/
inductive Site where
  | text (label value group : Text) (position : Nat)
  /-- a quoted attribute of the tag whose opening tag stands at a position -/
  | quoted (group : Text) (opening : OpenTag) (position : Nat) (q : QuotedAttribute)
  /-- an element without content whose opening tag stands at a position -/
  | empty (group : Text) (opening : OpenTag) (position : Nat)

namespace Site

/-- The value of the field for a site. -/
def value : Site → Text
  | .text _ value _ _ => value
  | .quoted _ _ _ q => q.value
  | .empty _ _ _ => []

/-- The bytes that a site takes in the page, as it was read. -/
def ownRange : Site → ByteRange
  | .text _ value _ position => ⟨position, value.width⟩
  | .quoted _ _ _ q => ⟨q.valueStart, q.value.width⟩
  | .empty _ opening position => ⟨position + opening.source.width, 0⟩

/-- The place where the search for the field of a site ends. -/
def start? (g : Ground) : Site → Option Nat
  | .text _ _ _ position => some position
  | .quoted _ _ position q =>
    g.bytes.valueStart? g.window position q.name.bytes q.position
  | .empty _ _ position => g.bytes.openTagEnd? g.window position

/-- The field for a site that was found at a place. -/
def fieldAt (start : Nat) : Site → Field
  | .text label value group _ => ofText start label value group
  | .quoted group opening _ q => ofAttribute start opening.name q.name q.value group
  | .empty group opening _ => ofText start (opening.name ++ VisibleText.text " text") [] group

/-- The field that the search finds for a site: it counts if the bytes where the search ends read
as the value. -/
def field? (g : Ground) (s : Site) : Option Field :=
  (s.start? g).bind fun start =>
    if g.bytes.matchesAt start s.value then some (s.fieldAt start) else none

theorem field?_eq_some {g : Ground} {s : Site} {f : Field} (h : s.field? g = some f) :
    ∃ start, s.start? g = some start ∧ f = s.fieldAt start := by
  obtain ⟨start, hstart, h⟩ := Option.bind_eq_some_iff.1 h
  split at h
  · cases h
    exact ⟨start, hstart, rfl⟩
  · cases h

theorem fieldAt_range (start : Nat) (s : Site) :
    (s.fieldAt start).range = ⟨start, s.value.width⟩ := by
  cases s <;> rfl

theorem fieldAt_value (start : Nat) (s : Site) : (s.fieldAt start).value = s.value := by
  cases s <;> rfl

theorem ownRange_length (s : Site) : s.ownRange.length = s.value.width := by
  cases s <;> rfl

end Site

/-! ## The sites of a page -/

/-- The site of a text, if the text counts where it stands. -/
def textSites (p : Place) (value : Text) (position : Nat) : List Site :=
  if p.skipped || (value.isBlank && !p.keepsBlanks) then []
  else
    let label :=
      match p.parent with
      | some tag => tag.name ++ text " text"
      | none => text "text"
    [.text label value p.group position]

/-- The sites of the quoted attributes of a tag that may be edited. -/
def attributeSites (inside : Place) (opening : OpenTag) (position : Nat) : List Site :=
  if inside.skipped then []
  else
    let quoted := quotedAttributesAt (partsPosition position opening) opening.parts
    (quoted.filter fun q => isEditable (tagAt position opening) q.toAttribute).map
      (.quoted inside.group opening position)

/-- The site of a tag without children, if the tag is a place for text. -/
def emptySites (inside : Place) (opening : OpenTag) (position : Nat)
    (children : List Document.Node) : List Site :=
  if !inside.skipped && isContentElement (tagAt position opening) && children.isEmpty then
    if opening.selfClosing then [] else [.empty inside.group opening position]
  else []

mutual

/-- The sites in markup at a position, and the landmarks entered behind it. -/
def sitesIn (p : Place) (counts : LandmarkCounts) (position : Nat) :
    Markup.Node → List Site × LandmarkCounts
  | .text value => (textSites p value position, counts)
  | .comment _ => ([], counts)
  | .doctype _ => ([], counts)
  | .frontmatter _ => ([], counts)
  | .expression pieces =>
    sitesInPieces ⟨none, (piecesAt (position + 1) pieces).any isStructure, true, p.group⟩ counts
      (position + 1) pieces
  | .fragment children _ =>
    sitesAmong ⟨none, (nodesAt (position + 2) children).any isStructure, p.skipped, p.group⟩
      counts (position + 2) children
  | .tag opening children _ =>
    let tag := tagAt position opening
    let nodes := nodesAt (position + opening.source.width) children
    let inside := p.inside counts tag nodes
    let inner := sitesAmong inside (enterTag counts p.group tag.kind tag.name).2
      (position + opening.source.width) children
    (attributeSites inside opening position ++ inner.1 ++
      emptySites inside opening position nodes, inner.2)

/-- The sites in markup from a position on, and the landmarks entered behind it. -/
def sitesAmong (p : Place) (counts : LandmarkCounts) (position : Nat) :
    List Markup.Node → List Site × LandmarkCounts
  | [] => ([], counts)
  | node :: nodes =>
    let first := sitesIn p counts position node
    let others := sitesAmong p first.2 (position + node.source.width) nodes
    (first.1 ++ others.1, others.2)

/-- The sites in the pieces of an expression from a position on, and the landmarks entered behind
them. -/
def sitesInPieces (p : Place) (counts : LandmarkCounts) (position : Nat) :
    List Piece → List Site × LandmarkCounts
  | [] => ([], counts)
  | .code value :: pieces => sitesInPieces p counts (position + value.width) pieces
  | .markup node :: pieces =>
    let first := sitesIn p counts position node
    let others := sitesInPieces p first.2 (position + node.source.width) pieces
    (first.1 ++ others.1, others.2)

end

/-- The sites in the nodes of a page. -/
def sites (nodes : List Markup.Node) : List Site :=
  (sitesAmong ⟨none, (nodesAt 0 nodes).any isStructure, false, []⟩ [] 0 nodes).1

/-- The sites of a page; one that cannot be read has none. -/
def sitesOf (page : Text) : List Site :=
  match Markup.nodesOf page with
  | .ok nodes => sites nodes
  | .error _ => []

/-! ## Fields are those of sites -/

section Single

variable {g : Ground}

theorem textFields?_eq_sites (p : Place) {value : Text} {position : Nat}
    (hg : g.Agrees (.text value position)) :
    textFields? g p value position =
      some ((textSites p value position).filterMap (Site.field? g)) := by
  obtain ⟨-, holds⟩ := hg
  unfold textFields? textSites
  split
  · rfl
  · have hmatches := matchesAt_of_holds? holds
    rw [holds]
    simp only [List.filterMap_cons, List.filterMap_nil, Site.field?, Site.start?, Site.value,
      Option.bind_some, hmatches, if_true]
    rfl

theorem attributeFields?_eq_site (group : Text) (opening : OpenTag) (position : Nat)
    {q : QuotedAttribute} (hq : q.value.hasSurrogate = false)
    (heditable : isEditable (tagAt position opening) q.toAttribute = true) :
    attributeFields? g group (tagAt position opening) q.toAttribute =
      some (Site.field? g (.quoted group opening position q)).toList := by
  have hfield : Site.field? g (.quoted group opening position q) =
      (g.bytes.valueStart? g.window position q.name.bytes q.position).bind fun start =>
        if g.bytes.matchesAt start q.value then
          some (ofAttribute start opening.name q.name q.value group)
        else none := rfl
  have hstart : (tagAt position opening).position = position := rfl
  rw [attributeFields?, if_pos heditable, hfield, hstart]
  simp only [QuotedAttribute.toAttribute]
  cases g.bytes.valueStart? g.window position q.name.bytes q.position with
  | none => rfl
  | some start =>
    have hholds : g.holds? start q.value = some (g.bytes.matchesAt start q.value) := by
      rw [Ground.holds?, hq]
      rfl
    simp only [hholds, Option.bind_some]
    cases g.bytes.matchesAt start q.value <;> rfl

theorem isEditable_quoted {t : Tag} {a : Attribute} (h : isEditable t a = true) :
    a.kind = .quoted := by
  simp only [isEditable, Bool.and_eq_true, decide_eq_true_eq] at h
  exact h.1.1

/-- Attributes that may not be edited have no fields, so they may be left out. -/
theorem attributesFields?_filter (group : Text) (t : Tag) (attributes : List Attribute) :
    attributesFields? g group t attributes =
      attributesFields? g group t (attributes.filter fun a => a.kind = .quoted) := by
  induction attributes with
  | nil => rfl
  | cons a attributes ih =>
    by_cases hquoted : a.kind = .quoted
    · rw [List.filter_cons_of_pos (by simpa using hquoted), attributesFields?,
        attributesFields?, ih]
    · have hnone : attributeFields? g group t a = some [] := by
        rw [attributeFields?, if_neg fun h => hquoted (isEditable_quoted h)]
      rw [List.filter_cons_of_neg (by simpa using hquoted), attributesFields?, hnone, ← ih]
      cases attributesFields? g group t attributes <;> rfl

theorem attributesFields?_eq_sites (group : Text) (opening : OpenTag) (position : Nat)
    {quoted : List QuotedAttribute} (hquoted : ∀ q ∈ quoted, q.value.hasSurrogate = false) :
    attributesFields? g group (tagAt position opening) (quoted.map QuotedAttribute.toAttribute) =
      some (((quoted.filter fun q => isEditable (tagAt position opening) q.toAttribute).map
        (Site.quoted group opening position)).filterMap (Site.field? g)) := by
  induction quoted with
  | nil => rfl
  | cons q quoted ih =>
    have hq := hquoted q (.head _)
    rw [List.map_cons, attributesFields?, ih fun q' hq' => hquoted q' (.tail _ hq')]
    cases heditable : isEditable (tagAt position opening) q.toAttribute with
    | false =>
      rw [attributeFields?, heditable, List.filter_cons_of_neg (by simp [heditable])]
      rfl
    | true =>
      rw [attributeFields?_eq_site group opening position hq heditable,
        List.filter_cons_of_pos (by simp [heditable]), List.map_cons, List.filterMap_cons]
      cases Site.field? g (.quoted group opening position q) <;> rfl

theorem ownFields?_eq_sites (inside : Place) {opening : OpenTag} {position : Nat}
    {children : List Document.Node} (hg : g.Agrees (.tag (tagAt position opening) children)) :
    ownFields? g inside (tagAt position opening) =
      some ((attributeSites inside opening position).filterMap (Site.field? g)) := by
  unfold ownFields? attributeSites
  split
  · rfl
  · have hattributes : (tagAt position opening).attributes =
        attributesAt (partsPosition position opening) opening.parts := rfl
    have hquoted := Document.filter_quoted_attributesAt (partsPosition position opening)
      opening.parts
    rw [hattributes, attributesFields?_filter, hquoted]
    refine attributesFields?_eq_sites inside.group opening position fun q hq => ?_
    -- the document has the attribute as well, with the same value
    have hmem : q.toAttribute ∈ (tagAt position opening).attributes := by
      have := List.mem_map_of_mem (f := QuotedAttribute.toAttribute) hq
      rw [← hquoted] at this
      exact (List.mem_filter.1 this).1
    exact hg _ hmem rfl

theorem emptyField_eq_sites (inside : Place) (opening : OpenTag) (position : Nat)
    (children : List Document.Node) :
    emptyField g inside (tagAt position opening) children =
      (emptySites inside opening position children).filterMap (Site.field? g) := by
  have hclosing : (tagAt position opening).selfClosing = opening.selfClosing := rfl
  have hstart : (tagAt position opening).position = position := rfl
  unfold emptyField emptySites emptyFields
  rw [hclosing, hstart]
  split
  · split
    · rfl
    · simp only [List.filterMap_cons, List.filterMap_nil, Site.field?, Site.start?, Site.value]
      cases g.bytes.openTagEnd? g.window position <;> rfl
  · rfl

end Single

mutual

/-- The fields of a node are those of the sites in the markup that it is. -/
theorem nodeFields?_eq_sites {g : Ground} {position : Nat} {node : Markup.Node}
    (hnode : ∀ x ∈ (nodeAt position node).walk, g.Agrees x) (p : Place)
    (counts : LandmarkCounts) :
    nodeFields? g p counts (nodeAt position node) =
      some ((sitesIn p counts position node).1.filterMap (Site.field? g),
        (sitesIn p counts position node).2) := by
  match node with
  | .text value =>
    rw [nodeAt, nodeFields?, textFields?_eq_sites p (hnode _ (.head _))]
    rfl
  | .comment _ => rfl
  | .doctype _ => rfl
  | .frontmatter _ => rfl
  | .expression pieces =>
    have hpieces := fun x hx => hnode x (.tail _ hx)
    rw [nodeAt, nodeFields?, piecesFields?_eq_sites hpieces]
    rfl
  | .fragment children _ =>
    have hchildren := fun x hx => hnode x (.tail _ hx)
    rw [nodeAt, nodeFields?, nodesFields?_eq_sites hchildren]
    rfl
  | .tag opening children _ =>
    have hchildren := fun x hx => hnode x (.tail _ hx)
    rw [nodeAt, nodeFields?_tag, ownFields?_eq_sites _ (hnode _ (.head _)), Option.bind_some,
      nodesFields?_eq_sites hchildren, Option.map_some, emptyField_eq_sites]
    simp only [sitesIn, List.filterMap_append]

theorem nodesFields?_eq_sites {g : Ground} {position : Nat} {nodes : List Markup.Node}
    (hnodes : ∀ x ∈ walkAll (nodesAt position nodes), g.Agrees x) (p : Place)
    (counts : LandmarkCounts) :
    nodesFields? g p counts (nodesAt position nodes) =
      some ((sitesAmong p counts position nodes).1.filterMap (Site.field? g),
        (sitesAmong p counts position nodes).2) := by
  match nodes with
  | [] => rfl
  | node :: nodes =>
    have hhead := fun x hx => hnodes x (List.mem_append_left _ hx)
    have htail := fun x hx => hnodes x (List.mem_append_right _ hx)
    rw [nodesAt, nodesFields?, nodeFields?_eq_sites hhead]
    simp only [Option.bind_eq_bind, Option.bind_some]
    rw [nodesFields?_eq_sites htail]
    simp [sitesAmong]

theorem piecesFields?_eq_sites {g : Ground} {position : Nat} {pieces : List Piece}
    (hpieces : ∀ x ∈ walkAll (piecesAt position pieces), g.Agrees x) (p : Place)
    (counts : LandmarkCounts) :
    nodesFields? g p counts (piecesAt position pieces) =
      some ((sitesInPieces p counts position pieces).1.filterMap (Site.field? g),
        (sitesInPieces p counts position pieces).2) := by
  match pieces with
  | [] => rfl
  | .code value :: pieces =>
    have htail : ∀ x ∈ walkAll (piecesAt (position + value.width) pieces), g.Agrees x := hpieces
    rw [piecesAt, sitesInPieces]
    exact piecesFields?_eq_sites htail p counts
  | .markup node :: pieces =>
    have hhead := fun x hx => hpieces x (List.mem_append_left _ hx)
    have htail := fun x hx => hpieces x (List.mem_append_right _ hx)
    rw [piecesAt, nodesFields?, nodeFields?_eq_sites hhead]
    simp only [Option.bind_eq_bind, Option.bind_some]
    rw [piecesFields?_eq_sites htail]
    simp [sitesInPieces]

end

theorem exists_nodesOf_of_parse {page : Text} {d : Document} (h : Document.parse page = .ok d) :
    ∃ nodes, Markup.nodesOf page = .ok nodes ∧ d.children = nodesAt 0 nodes ∧
      sitesOf page = sites nodes := by
  obtain ⟨nodes, hnodes, rfl⟩ := Markup.exists_of_map_eq_ok h
  exact ⟨nodes, hnodes, rfl, by rw [sitesOf, hnodes]⟩

/-- The fields of a page are those that the search finds for its sites. -/
theorem ofPage_eq_sites (window : Int) {source : Text} {d : Document}
    (hsource : source.hasSurrogate = false) (hparse : Document.parse source = .ok d) :
    ofPage window source =
      .ok ((sitesOf source).filterMap (Site.field? ⟨source.bytes, window⟩)) := by
  obtain ⟨nodes, -, hchildren, hsites⟩ := exists_nodesOf_of_parse hparse
  have hagrees := agrees_of_parse window hsource hparse
  rw [Document.nodes, hchildren] at hagrees
  have key := nodesFields?_eq_sites hagrees
    ⟨none, (nodesAt 0 nodes).any isStructure, false, []⟩ []
  unfold ofPage Text.encode? ofDocument?
  simp only [hparse, hsource, hchildren, key, hsites, Bool.false_eq_true, if_false,
    Option.map_some]
  rfl

/-- The fields of a page that has fields are those of its sites. -/
theorem eq_sites_of_ofPage {window : Int} {source : Text} {fields : List Field}
    (h : ofPage window source = .ok fields) :
    fields = (sitesOf source).filterMap (Site.field? ⟨source.bytes, window⟩) := by
  obtain ⟨d, hparse, hsource, -⟩ := ofPage_eq_ok h
  exact Except.ok.inj (h.symm.trans (ofPage_eq_sites window hsource hparse))

/-! ## Sites in their pages -/

/-- A proper opening tag stands in a page at a position. -/
def OpensAt (page : Text) (opening : OpenTag) (position : Nat) : Prop :=
  opening.Proper ∧ ∃ before after : Text,
    page = before ++ opening.source ++ after ∧ before.width = position

/-- A site stands in a page as it was read. -/
def Site.StandsIn (page : Text) : Site → Prop
  | .text _ value _ position =>
    value ≠ [] ∧ ∃ before after : Text, page = before ++ value ++ after ∧ before.width = position
  | .quoted _ opening position q =>
    OpensAt page opening position ∧
      q ∈ quotedAttributesAt (partsPosition position opening) opening.parts ∧
      isEditable (tagAt position opening) q.toAttribute = true
  | .empty _ opening position => OpensAt page opening position ∧ opening.selfClosing = false

section Stands

variable {page before left rest : Text} {s : Site}

theorem standsIn_of_mem_textSites {p : Place} {value : Text} (value_ne : value ≠ [])
    (hpage : page = before ++ (value ++ rest)) (hs : s ∈ textSites p value before.width) :
    s.StandsIn page := by
  unfold textSites at hs
  split at hs
  · cases hs
  · obtain rfl := List.mem_singleton.1 hs
    exact ⟨value_ne, before, rest, by rw [hpage, List.append_assoc], rfl⟩

theorem standsIn_of_mem_plain {node : Markup.Node} (hread : Reads left node rest)
    (plain : node.isPlain = true) (hpage : page = before ++ left) {p : Place}
    {counts : LandmarkCounts} (hs : s ∈ (sitesIn p counts before.width node).1) :
    s.StandsIn page := by
  cases node with
  | text value =>
    rw [hread.eq_append] at hpage
    exact standsIn_of_mem_textSites hread.source_ne hpage hs
  | comment | doctype | frontmatter => cases hs
  | expression | tag | fragment => cases plain

theorem standsIn_of_mem_attributeSites {inside : Place} {opening : OpenTag} {position : Nat}
    (hopens : OpensAt page opening position) (hs : s ∈ attributeSites inside opening position) :
    s.StandsIn page := by
  unfold attributeSites at hs
  split at hs
  · cases hs
  · obtain ⟨q, hq, rfl⟩ := List.mem_map.1 hs
    obtain ⟨hmem, heditable⟩ := List.mem_filter.1 hq
    exact ⟨hopens, hmem, heditable⟩

theorem standsIn_of_mem_emptySites {inside : Place} {opening : OpenTag} {position : Nat}
    {children : List Document.Node} (hopens : OpensAt page opening position)
    (hs : s ∈ emptySites inside opening position children) : s.StandsIn page := by
  unfold emptySites at hs
  split at hs
  · split at hs
    · cases hs
    · next hclosing =>
      obtain rfl := List.mem_singleton.1 hs
      exact ⟨hopens, Bool.eq_false_iff.2 hclosing⟩
  · cases hs

end Stands

mutual

/-- The sites in markup that was read behind some text of the page stand in the page. -/
theorem standsIn_of_mem_sitesIn {page before left rest : Text} {node : Markup.Node} {s : Site}
    (hread : Reads left node rest) (hpage : page = before ++ left) (p : Place)
    (counts : LandmarkCounts) (hs : s ∈ (sitesIn p counts before.width node).1) :
    s.StandsIn page := by
  match hread with
  | .plain call plain left_eq source_ne =>
    exact standsIn_of_mem_plain (.plain call plain left_eq source_ne) plain hpage hs
  | .front earlier later call plain source_ne =>
    exact standsIn_of_mem_plain (.front earlier later call plain source_ne) plain hpage hs
  | .raw call raw_ne => exact standsIn_of_mem_plain (.raw call raw_ne) rfl hpage hs
  | .expression _ inside =>
    have hbody := hpage.trans (List.append_cons before _ _)
    have hwidth : (before ++ [CodePoint.char '{']).width = before.width + 1 := by
      rw [Text.width_append]
      rfl
    rw [sitesIn, ← hwidth] at hs
    exact standsIn_of_mem_sitesInPieces inside hbody _ counts hs
  | .fragment _ inside =>
    have hbody := hpage.trans (List.append_assoc before (VisibleText.text "<>") _).symm
    have hwidth : (before ++ VisibleText.text "<>").width = before.width + 2 := by
      rw [Text.width_append]
      rfl
    rw [sitesIn, ← hwidth] at hs
    exact standsIn_of_mem_sitesAmong inside hbody _ counts hs
  | .tag call inside =>
    have hbody := hpage.trans (List.append_assoc before _ _).symm
    have hopens : OpensAt page _ before.width :=
      ⟨(Reads.tag call inside).opening_proper, before, _, hbody, rfl⟩
    -- the sites of a tag are those of its attributes, those in it, and its empty site
    rw [sitesIn] at hs
    rcases List.mem_append.1 hs with hs | hs
    · rcases List.mem_append.1 hs with hs | hs
      · exact standsIn_of_mem_attributeSites hopens hs
      · rw [← Text.width_append] at hs
        exact standsIn_of_mem_sitesAmong inside hbody _ _ hs
    · exact standsIn_of_mem_emptySites hopens hs

theorem standsIn_of_mem_sitesAmong {page before left rest : Text} {nodes : List Markup.Node}
    {s : Site} (hread : ReadsAll left nodes rest) (hpage : page = before ++ left) (p : Place)
    (counts : LandmarkCounts) (hs : s ∈ (sitesAmong p counts before.width nodes).1) :
    s.StandsIn page := by
  match hread with
  | .nil => cases hs
  | .cons head tail =>
    rcases List.mem_append.1 hs with hs | hs
    · exact standsIn_of_mem_sitesIn head hpage p counts hs
    · rw [head.eq_append, ← List.append_assoc] at hpage
      rw [← Text.width_append] at hs
      exact standsIn_of_mem_sitesAmong tail hpage p _ hs

theorem standsIn_of_mem_sitesInPieces {page before left rest : Text} {pieces : List Piece}
    {s : Site} (hread : ReadsPieces left pieces rest) (hpage : page = before ++ left) (p : Place)
    (counts : LandmarkCounts) (hs : s ∈ (sitesInPieces p counts before.width pieces).1) :
    s.StandsIn page := by
  match hread with
  | .nil => cases hs
  | .code tail =>
    rw [← List.append_assoc] at hpage
    rw [sitesInPieces, ← Text.width_append] at hs
    exact standsIn_of_mem_sitesInPieces tail hpage p counts hs
  | .markup head tail =>
    rcases List.mem_append.1 hs with hs | hs
    · exact standsIn_of_mem_sitesIn head hpage p counts hs
    · rw [head.eq_append, ← List.append_assoc] at hpage
      rw [← Text.width_append] at hs
      exact standsIn_of_mem_sitesInPieces tail hpage p _ hs

end

theorem readsAll_of_nodesOf {page : Text} {nodes : List Markup.Node}
    (h : Markup.nodesOf page = .ok nodes) : ReadsAll page nodes [] := by
  unfold Markup.nodesOf at h
  cases hread : Markup.readPage page with
  | error failure =>
    rw [hread] at h
    cases h
  | ok found =>
    rw [hread] at h
    cases h
    exact Markup.readPage_reads hread

/-- Every site of a page stands in the page as it was read. -/
theorem standsIn_of_mem_sitesOf {page : Text} {s : Site} (hs : s ∈ sitesOf page) :
    s.StandsIn page := by
  unfold sitesOf at hs
  split at hs
  · next nodes hnodes =>
    exact standsIn_of_mem_sitesAmong (readsAll_of_nodesOf hnodes) (List.nil_append page).symm _ []
      hs
  · cases hs

end VisibleText.Field
