import Mathlib.Data.List.Basic
import VisibleText.Edit.Apply
import VisibleText.Proofs.Coverage
import VisibleText.Proofs.Utf8

/-!
# Where fields stand

A document that was read from a page agrees with the bytes of the page: its text nodes stand
where they say, so that comparing them with the bytes never fails (`Ground.Agrees`).

Every field of a page holds its value, and it starts at a boundary of the page, whatever it
was found from: text starts where its node does, the value of an attribute behind a quote,
and an empty field behind the `>` of an opening tag (`standsIn_of_ofPage`).
-/

set_option autoImplicit false

namespace VisibleText.Document

/-! ## Texts at their offsets -/

section Offsets

variable {page t : Text} {start stop : Nat}

theorem isBoundary_offset (page : Text) (index : Nat) : page.IsBoundary (offset page index) :=
  ⟨page.take index, page.drop index, (List.take_append_drop index page).symm, rfl⟩

theorem Stands.subset (h : Stands page start t stop) : t ⊆ page := by
  obtain ⟨before, after, rfl, -, -⟩ := h
  intro c hc
  simp [hc]

/-- The bytes of a text stand where the text does. -/
theorem Stands.slice_eq (h : Stands page start t stop) :
    page.bytes.slice ⟨offset page start, t.width⟩ = t.bytes := by
  obtain ⟨before, after, rfl, rfl, -⟩ := h
  rw [offset_length (List.append_assoc before t after), Text.slice_bytes_append]

theorem Stands.matchesAt (h : Stands page start t stop) (ht : t.hasSurrogate = false) :
    page.bytes.matchesAt (offset page start) t = true := by
  rw [Bytes.matchesAt, h.slice_eq, decodeLossy_bytes ht, beq_self_eq_true]

theorem Covers.position_eq {x : Node} (h : Covers page start x stop) :
    x.position = offset page start := by
  cases h <;> rfl

end Offsets

/-! ## Attributes at their tags -/

theorem value_subset_source {part : Markup.TagPart} {position : Nat} {a : Attribute}
    (h : attributeAt? position part = some a) (quoted : a.kind = .quoted) :
    a.value ⊆ part.source := by
  cases part with
  | blank blanks => cases h
  | slash => cases h
  | code value =>
    simp only [attributeAt?] at h
    split at h <;> cases h <;> cases quoted
  | named name assignment =>
    cases assignment with
    | none =>
      cases h
      cases quoted
    | some assignment =>
      obtain ⟨blankBefore, blankAfter, literal⟩ := assignment
      cases literal with
      | quoted quote value =>
        cases h
        intro c hc
        simp [Markup.TagPart.source, Markup.Assignment.source, Markup.Literal.source, hc]
      | missing | template | code | bare =>
        cases h
        cases quoted

theorem value_subset_partsSource {parts : List Markup.TagPart} {position : Nat} {a : Attribute}
    (h : a ∈ attributesAt position parts) (quoted : a.kind = .quoted) :
    a.value ⊆ Markup.partsSource parts := by
  induction parts generalizing position with
  | nil => cases h
  | cons part parts ih =>
    rw [Markup.partsSource, List.flatMap_cons]
    rcases List.mem_append.1 h with h | h
    · have hvalue := value_subset_source (Option.mem_toList.1 h) quoted
      exact fun c hc => List.mem_append_left _ (hvalue hc)
    · have hvalue := ih h
      exact fun c hc => List.mem_append_right _ (hvalue hc)

end VisibleText.Document

namespace VisibleText.Field

open VisibleText.Document (Attribute Tag Covers Stands offset tiles_of_parse isBoundary_offset)

/-! ## Documents that agree with their bytes -/

/-- What a node says can be compared with the bytes, and text is found where it stands. -/
def Ground.Agrees (g : Ground) : Document.Node → Prop
  | .text value position => value ≠ [] ∧ g.holds? position value = some true
  | .tag opening _ => ∀ a ∈ opening.attributes, a.kind = .quoted → a.value.hasSurrogate = false
  | _ => True

section Page

variable {page : Text}

theorem agrees_of_covers {start stop : Nat} {x : Document.Node} (window : Int)
    (hpage : page.hasSurrogate = false) (h : Covers page start x stop) :
    Ground.Agrees ⟨page.bytes, window⟩ x := by
  cases h with
  | text read stands value_ne =>
    have hvalue := Text.hasSurrogate_of_subset stands.subset hpage
    refine ⟨value_ne, ?_⟩
    rw [Ground.holds?, hvalue, stands.matchesAt hvalue]
    rfl
  | tag read opens =>
    intro a ha quoted
    refine Text.hasSurrogate_of_subset (fun c hc => opens.subset ?_) hpage
    have := Document.value_subset_partsSource ha quoted hc
    simp [Markup.OpenTag.source, this]
  | comment | doctype | frontmatter | expression | fragment => trivial

/-- A document agrees with the bytes of the page that it was read from. -/
theorem agrees_of_parse {d : Document} (window : Int) (hpage : page.hasSurrogate = false)
    (hparse : Document.parse page = .ok d) :
    ∀ x ∈ d.nodes, Ground.Agrees ⟨page.bytes, window⟩ x := by
  intro x hx
  obtain ⟨start, stop, hx⟩ := (tiles_of_parse hparse).exists_of_mem_walkAll hx
  exact agrees_of_covers window hpage hx

theorem isBoundary_position_of_parse {d : Document} (hparse : Document.parse page = .ok d) :
    ∀ x ∈ d.nodes, page.IsBoundary x.position := by
  intro x hx
  obtain ⟨start, stop, hx⟩ := (tiles_of_parse hparse).exists_of_mem_walkAll hx
  rw [hx.position_eq]
  exact isBoundary_offset page start

end Page

/-! ## Places behind ASCII bytes -/

/-- A place in some bytes that lies directly behind an ASCII byte. -/
def BehindAscii (b : Bytes) (place : Nat) : Prop :=
  ∃ (n : Nat) (x : UInt8) (rest : Bytes), place = n + 1 ∧ b.drop n = x :: rest ∧ x.toNat < 0x80

section Places

variable {b : Bytes} {n : Nat}

theorem BehindAscii.cons {x : UInt8} (h : BehindAscii b n) : BehindAscii (x :: b) (n + 1) := by
  obtain ⟨m, y, rest, rfl, hdrop, hy⟩ := h
  exact ⟨m + 1, y, rest, rfl, by rw [List.drop_succ_cons, hdrop], hy⟩

theorem BehindAscii.of_drop {k : Nat} (h : BehindAscii (b.drop k) n) : BehindAscii b (k + n) := by
  obtain ⟨m, x, rest, rfl, hdrop, hx⟩ := h
  exact ⟨k + m, x, rest, rfl, by rw [← List.drop_drop, hdrop], hx⟩

theorem BehindAscii.of_take {k : Nat} (h : BehindAscii (b.take k) n) : BehindAscii b n := by
  obtain ⟨m, x, rest, rfl, hdrop, hx⟩ := h
  have hb : b.drop m = x :: (rest ++ (b.drop m).drop (k - m)) := by
    rw [List.drop_take] at hdrop
    rw [← List.cons_append, ← hdrop, List.take_append_drop]
  exact ⟨m, x, _, rfl, hb, hx⟩

theorem BehindAscii.isBoundary {t : Text} (h : BehindAscii t.bytes n) : t.IsBoundary n := by
  obtain ⟨m, x, rest, rfl, hdrop, hx⟩ := h
  exact Text.isBoundary_succ_of_ascii hdrop hx

theorem behindAscii_of_suffix {x : UInt8} {rest : Bytes} (h : x :: rest <:+ b)
    (hx : x.toNat < 0x80) : BehindAscii b (b.length - rest.length) := by
  obtain ⟨before, rfl⟩ := h
  refine ⟨before.length, x, rest, ?_, List.drop_left, hx⟩
  simp only [List.length_append, List.length_cons]
  omega

end Places

/-! ## Ends of opening tags -/

theorem pass_eq_none {s : TagScan} {n : Nat} (h : s.pass n = none) : n = '>'.toNat := by
  unfold TagScan.pass at h
  split at h
  · cases h
  split at h
  · cases h
  split at h
  · cases h
  split at h
  · cases h
  split at h
  · next hend =>
    simp only [Bool.and_eq_true, decide_eq_true_eq] at hend
    exact hend.1
  · cases h

theorem behindAscii_of_length? {b : Bytes} {s : TagScan} {size : Nat}
    (h : s.length? (b.map UInt8.toNat) = some size) : BehindAscii b size := by
  induction b generalizing s size with
  | nil => cases h
  | cons x b ih =>
    rw [List.map_cons, TagScan.length?] at h
    split at h
    · next hpass =>
      cases h
      refine ⟨0, x, b, rfl, rfl, ?_⟩
      rw [pass_eq_none hpass]
      decide
    · obtain ⟨size, hsize, rfl⟩ := Option.map_eq_some_iff.1 h
      exact (ih hsize).cons

theorem behindAscii_of_openTagEnd? {b : Bytes} {window : Int} {start stop : Nat}
    (h : b.openTagEnd? window start = some stop) : BehindAscii b stop := by
  obtain ⟨size, hsize, rfl⟩ := Option.map_eq_some_iff.1 h
  exact (behindAscii_of_length? hsize).of_take.of_drop

/-! ## Values of attributes -/

theorem behindAscii_of_quotedStart? {name b : Bytes} {size : Nat}
    (h : Bytes.quotedStart? name b = some size) : BehindAscii b size := by
  simp only [Bytes.quotedStart?, Option.bind_eq_bind, Option.bind_eq_some_iff] at h
  obtain ⟨behind, hprefix, h⟩ := h
  have hbehind : behind <:+ b := ⟨name, List.append_eq_of_isPrefixOf?_eq_some hprefix⟩
  split at h
  · next assigned hequals =>
    have hassigned : assigned <:+ behind :=
      (List.suffix_cons 0x3D assigned).trans (hequals ▸ List.dropWhile_suffix _)
    split at h
    · next quote value hquote =>
      have hvalue : quote :: value <:+ assigned := hquote ▸ List.dropWhile_suffix _
      split at h
      · next hmark =>
        cases h
        refine behindAscii_of_suffix (hvalue.trans (hassigned.trans hbehind)) ?_
        rw [Bool.or_eq_true, decide_eq_true_eq, decide_eq_true_eq] at hmark
        rcases hmark with rfl | rfl <;> decide
      · cases h
    · cases h
  · cases h

theorem behindAscii_of_mem_occurrencesFrom {name b : Bytes} {place passed : Nat}
    {behindBlank : Bool} {o : Bytes.Occurrence}
    (h : o ∈ Bytes.occurrencesFrom name place passed behindBlank b) :
    ∃ n, o.value = place + n ∧ BehindAscii b n := by
  induction b generalizing place passed behindBlank with
  | nil => cases h
  | cons x b ih =>
    -- behind the first byte, every place is one further on
    have later {passed : Nat} {behindBlank : Bool}
        (h : o ∈ Bytes.occurrencesFrom name (place + 1) passed behindBlank b) :
        ∃ n, o.value = place + n ∧ BehindAscii (x :: b) n := by
      obtain ⟨n, hvalue, hn⟩ := ih h
      exact ⟨n + 1, by omega, hn.cons⟩
    cases passed with
    | succ passed => exact later h
    | zero =>
      simp only [Bytes.occurrencesFrom] at h
      split at h
      · next size hfound =>
        rcases List.mem_cons.1 h with rfl | h
        · split at hfound
          · exact ⟨size, rfl, behindAscii_of_quotedStart? hfound⟩
          · cases hfound
        · exact later h
      · exact later h

/-- The search for a value ends at one of the occurrences in the opening tag. -/
theorem exists_occurrence_of_valueStart? {b name : Bytes} {window : Int}
    {start position place : Nat} (h : b.valueStart? window start name position = some place) :
    ∃ o ∈ Bytes.occurrencesFrom name start 0 false (b.openTag window start), o.value = place := by
  obtain ⟨o, ho, hvalue⟩ := Option.map_eq_some_iff.1 h
  refine ⟨o, ?_, hvalue⟩
  rcases Option.or_eq_some_iff.1 ho with ho | ⟨-, ho⟩
  · exact List.mem_of_find?_eq_some ho
  · exact List.mem_of_head? ho

theorem behindAscii_of_valueStart? {b name : Bytes} {window : Int} {start position place : Nat}
    (h : b.valueStart? window start name position = some place) : BehindAscii b place := by
  obtain ⟨o, hmem, rfl⟩ := exists_occurrence_of_valueStart? h
  obtain ⟨n, hvalue, hn⟩ := behindAscii_of_mem_occurrencesFrom hmem
  rw [hvalue]
  unfold Bytes.openTag at hn
  split at hn
  · exact hn.of_take.of_drop
  · exact hn.of_take.of_drop

/-! ## Fields and their bytes -/

/-- The bytes that a field takes read as its value. -/
structure Holds (b : Bytes) (f : Field) : Prop where
  length_eq : f.range.length = f.value.width
  matchesAt : b.matchesAt f.range.start f.value = true

/-- A field whose bytes read as its value and that starts directly behind an ASCII byte. -/
structure HoldsBehindAscii (b : Bytes) (f : Field) : Prop extends Holds b f where
  behind : BehindAscii b f.range.start

section Single

variable {g : Ground} {group : Text} {opening : Tag} {fields : List Field} {f : Field}

theorem matchesAt_of_holds? {start : Nat} {value : Text} {holds : Bool}
    (h : g.holds? start value = some holds) : g.bytes.matchesAt start value = holds := by
  unfold Ground.holds? at h
  split at h
  · cases h
  · exact Option.some.inj h

theorem holds_of_mem_textFields? {p : Place} {value : Text} {start : Nat}
    (h : textFields? g p value start = some fields) (hf : f ∈ fields) :
    f.Holds g.bytes ∧ f.range.start = start := by
  unfold textFields? at h
  split at h
  · cases h
    cases hf
  · obtain ⟨holds, hholds, h⟩ := Option.bind_eq_some_iff.1 h
    have hmatches := matchesAt_of_holds? hholds
    split at h
    · next htrue =>
      cases h
      obtain rfl := List.mem_singleton.1 hf
      exact ⟨⟨rfl, hmatches.trans htrue⟩, rfl⟩
    · cases h
      cases hf

theorem holds_of_mem_attributeFields? {a : Attribute}
    (h : attributeFields? g group opening a = some fields) (hf : f ∈ fields) :
    f.HoldsBehindAscii g.bytes := by
  unfold attributeFields? at h
  split at h
  · split at h
    · cases h
      cases hf
    · next start hstart =>
      obtain ⟨holds, hholds, h⟩ := Option.bind_eq_some_iff.1 h
      have hmatches := matchesAt_of_holds? hholds
      split at h
      · next htrue =>
        cases h
        obtain rfl := List.mem_singleton.1 hf
        exact ⟨⟨rfl, hmatches.trans htrue⟩, behindAscii_of_valueStart? hstart⟩
      · cases h
        cases hf
  · cases h
    cases hf

theorem holds_of_mem_attributesFields? {attributes : List Attribute}
    (h : attributesFields? g group opening attributes = some fields) (hf : f ∈ fields) :
    f.HoldsBehindAscii g.bytes := by
  induction attributes generalizing fields with
  | nil =>
    cases h
    cases hf
  | cons a attributes ih =>
    obtain ⟨first, hfirst, h⟩ := Option.bind_eq_some_iff.1 h
    obtain ⟨others, hothers, h⟩ := Option.bind_eq_some_iff.1 h
    cases h
    rcases List.mem_append.1 hf with hf | hf
    · exact holds_of_mem_attributeFields? hfirst hf
    · exact ih hothers hf

theorem holds_of_mem_emptyFields (hf : f ∈ emptyFields g group opening) :
    f.HoldsBehindAscii g.bytes := by
  unfold emptyFields at hf
  split at hf
  · cases hf
  · split at hf
    · cases hf
    · next start hstart =>
      obtain rfl := List.mem_singleton.1 hf
      exact ⟨⟨rfl, rfl⟩, behindAscii_of_openTagEnd? hstart⟩

end Single

/-! ## Tags -/

/-- The place of what stands in a tag. -/
def Place.inside (p : Place) (counts : LandmarkCounts) (opening : Tag)
    (children : List Document.Node) : Place where
  parent := some opening
  besideStructure := children.any isStructure
  skipped := p.skipped || isSkipped opening
  group := (enterTag counts p.group opening.kind opening.name).1

/-- The fields of the attributes of a tag with a given inside. -/
def ownFields? (g : Ground) (inside : Place) (opening : Tag) : Option (List Field) :=
  if inside.skipped then some []
  else attributesFields? g inside.group opening opening.attributes

/-- The empty field of a tag with a given inside, if the tag is a place for text. -/
def emptyField (g : Ground) (inside : Place) (opening : Tag) (children : List Document.Node) :
    List Field :=
  if !inside.skipped && isContentElement opening && children.isEmpty then
    emptyFields g inside.group opening
  else []

/-- The fields of a tag are those of its attributes, those in it, and its empty field. -/
theorem nodeFields?_tag (g : Ground) (p : Place) (counts : LandmarkCounts) (opening : Tag)
    (children : List Document.Node) :
    nodeFields? g p counts (.tag opening children) =
      (ownFields? g (p.inside counts opening children) opening).bind fun own =>
        (nodesFields? g (p.inside counts opening children)
            (enterTag counts p.group opening.kind opening.name).2 children).map fun inner =>
          (own ++ inner.1 ++ emptyField g (p.inside counts opening children) opening children,
            inner.2) := by
  have hinside : (p.inside counts opening children).skipped = (p.skipped || isSkipped opening) :=
    rfl
  by_cases hskipped : (p.skipped || isSkipped opening) = true
  · rw [ownFields?, if_pos (hinside.trans hskipped)]
    simp only [nodeFields?, Option.bind_eq_bind, if_pos hskipped, Option.map_eq_bind]
    rfl
  · rw [ownFields?, if_neg (hinside ▸ hskipped)]
    simp only [nodeFields?, Option.bind_eq_bind, if_neg hskipped, Option.map_eq_bind]
    rfl

theorem holds_of_mem_ownFields? {g : Ground} {inside : Place} {opening : Tag}
    {fields : List Field} {f : Field} (h : ownFields? g inside opening = some fields)
    (hf : f ∈ fields) : f.HoldsBehindAscii g.bytes := by
  unfold ownFields? at h
  split at h
  · cases h
    cases hf
  · exact holds_of_mem_attributesFields? h hf

theorem holds_of_mem_emptyField {g : Ground} {inside : Place} {opening : Tag}
    {children : List Document.Node} {f : Field} (hf : f ∈ emptyField g inside opening children) :
    f.HoldsBehindAscii g.bytes := by
  unfold emptyField at hf
  split at hf
  · exact holds_of_mem_emptyFields hf
  · cases hf

/-! ## The fields of a page -/

/-- A field starts at a boundary of its page, and the bytes that it takes read as its
value. -/
structure StandsIn (page : Text) (f : Field) : Prop extends Holds page.bytes f where
  boundary : page.IsBoundary f.range.start

theorem HoldsBehindAscii.standsIn {page : Text} {f : Field}
    (h : f.HoldsBehindAscii page.bytes) : f.StandsIn page :=
  ⟨h.toHolds, h.behind.isBoundary⟩

mutual

theorem standsIn_of_mem_nodeFields? {page : Text} {window : Int} {p : Place}
    {counts counts' : LandmarkCounts} {node : Document.Node} {fields : List Field} {f : Field}
    (h : nodeFields? ⟨page.bytes, window⟩ p counts node = some (fields, counts'))
    (hnode : ∀ x ∈ node.walk, page.IsBoundary x.position) (hf : f ∈ fields) :
    f.StandsIn page := by
  cases node with
  | text value start =>
    obtain ⟨own, hown, h⟩ := Option.map_eq_some_iff.1 h
    cases h
    obtain ⟨holds, hstart⟩ := holds_of_mem_textFields? hown hf
    exact ⟨holds, hstart ▸ hnode _ (.head _)⟩
  | comment | doctype | frontmatter =>
    cases h
    cases hf
  | expression children =>
    exact standsIn_of_mem_nodesFields? h (fun x hx => hnode x (.tail _ hx)) hf
  | fragment children =>
    exact standsIn_of_mem_nodesFields? h (fun x hx => hnode x (.tail _ hx)) hf
  | tag opening children =>
    rw [nodeFields?_tag] at h
    obtain ⟨own, hown, h⟩ := Option.bind_eq_some_iff.1 h
    obtain ⟨⟨inner, counts''⟩, hinner, h⟩ := Option.map_eq_some_iff.1 h
    cases h
    rcases List.mem_append.1 hf with hf | hf
    · rcases List.mem_append.1 hf with hf | hf
      · exact (holds_of_mem_ownFields? hown hf).standsIn
      · exact standsIn_of_mem_nodesFields? hinner (fun x hx => hnode x (.tail _ hx)) hf
    · exact (holds_of_mem_emptyField hf).standsIn

theorem standsIn_of_mem_nodesFields? {page : Text} {window : Int} {p : Place}
    {counts counts' : LandmarkCounts} {nodes : List Document.Node} {fields : List Field}
    {f : Field} (h : nodesFields? ⟨page.bytes, window⟩ p counts nodes = some (fields, counts'))
    (hnodes : ∀ x ∈ Document.walkAll nodes, page.IsBoundary x.position) (hf : f ∈ fields) :
    f.StandsIn page := by
  cases nodes with
  | nil =>
    cases h
    cases hf
  | cons node nodes =>
    obtain ⟨⟨first, counts₁⟩, hfirst, h⟩ := Option.bind_eq_some_iff.1 h
    obtain ⟨⟨others, counts₂⟩, hothers, h⟩ := Option.bind_eq_some_iff.1 h
    cases h
    have hhead := fun x hx => hnodes x (List.mem_append_left _ hx)
    have htail := fun x hx => hnodes x (List.mem_append_right _ hx)
    rcases List.mem_append.1 hf with hf | hf
    · exact standsIn_of_mem_nodeFields? hfirst hhead hf
    · exact standsIn_of_mem_nodesFields? hothers htail hf

end

/-- A page has fields if it has a document, bytes, and fields of the document in the bytes. -/
theorem ofPage_eq_ok {window : Int} {source : Text} {fields : List Field}
    (h : ofPage window source = .ok fields) :
    ∃ d, Document.parse source = .ok d ∧ source.hasSurrogate = false ∧
      ofDocument? ⟨source.bytes, window⟩ d = some fields := by
  unfold ofPage at h
  split at h
  · cases h
  · next d hparse =>
    unfold Text.encode? at h
    cases hsource : source.hasSurrogate with
    | true =>
      rw [hsource] at h
      cases h
    | false =>
      rw [hsource] at h
      simp only [Bool.false_eq_true, if_false] at h
      split at h
      · cases h
      · next found hfound =>
        cases h
        exact ⟨d, hparse, rfl, hfound⟩

/-- Every field of a page stands in the page. -/
theorem standsIn_of_ofPage {window : Int} {source : Text} {fields : List Field}
    (h : ofPage window source = .ok fields) : ∀ f ∈ fields, f.StandsIn source := by
  intro f hf
  obtain ⟨d, hparse, -, hfields⟩ := ofPage_eq_ok h
  obtain ⟨⟨found, counts⟩, hfound, rfl⟩ := Option.map_eq_some_iff.1 hfields
  exact standsIn_of_mem_nodesFields? hfound (isBoundary_position_of_parse hparse) hf

end VisibleText.Field
