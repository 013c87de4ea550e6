import VisibleText.Proofs.Closing
import VisibleText.Proofs.FieldSite

/-!
# Sites stand one behind the other

The bytes that belong to the sites of a page follow one another: each site starts behind the start
of the one before it, and no site reaches into the next one (`sitesOf_apart`).

Only an empty site takes no bytes, so it could start where the next site does. It does not: its
tag has a closing tag, or else it was left open and nothing stands behind it (`NodesTidy`).
-/

set_option autoImplicit false

namespace VisibleText

/-! ## Ranges one behind the other -/

/-- A range starts before another one, and ends before or where that one starts. -/
def ByteRange.Before (r s : ByteRange) : Prop := r.start < s.start ∧ r.stop ≤ s.start

theorem ByteRange.start_le_stop (r : ByteRange) : r.start ≤ r.stop := Nat.le_add_right _ _

/-- Ranges one behind the other, between two places. -/
structure Apart (low : Nat) (ranges : List ByteRange) (high : Nat) : Prop where
  pairwise : ranges.Pairwise ByteRange.Before
  low_le : ∀ r ∈ ranges, low ≤ r.start
  stop_le : ∀ r ∈ ranges, r.stop ≤ high

namespace Apart

variable {low middle high : Nat} {before after : List ByteRange}

theorem nil : Apart low [] high := ⟨.nil, fun _ hr => (nomatch hr), fun _ hr => nomatch hr⟩

theorem singleton {r : ByteRange} (hlow : low ≤ r.start) (hhigh : r.stop ≤ high) :
    Apart low [r] high := by
  refine ⟨List.pairwise_singleton _ _, fun s hs => ?_, fun s hs => ?_⟩
  · rw [List.mem_singleton.1 hs]
    exact hlow
  · rw [List.mem_singleton.1 hs]
    exact hhigh

theorem sublist (h : Apart low after high) (hsub : before.Sublist after) :
    Apart low before high :=
  ⟨h.pairwise.sublist hsub, fun r hr => h.low_le r (hsub.subset hr),
    fun r hr => h.stop_le r (hsub.subset hr)⟩

theorem mono {low' high' : Nat} (h : Apart low before high) (hlow : low' ≤ low)
    (hhigh : high ≤ high') : Apart low' before high' :=
  ⟨h.pairwise, fun r hr => Nat.le_trans hlow (h.low_le r hr),
    fun r hr => Nat.le_trans (h.stop_le r hr) hhigh⟩

/-- Ranges between two places and ranges behind the second place, where none of the first ones
starts. -/
theorem append (hbefore : Apart low before middle) (hstart : ∀ r ∈ before, r.start < middle)
    (hafter : Apart middle after high) (hlow : low ≤ middle) (hhigh : middle ≤ high) :
    Apart low (before ++ after) high := by
  refine ⟨List.pairwise_append.2 ⟨hbefore.pairwise, hafter.pairwise, fun r hr s hs => ?_⟩,
    fun r hr => ?_, fun r hr => ?_⟩
  · have hs := hafter.low_le s hs
    exact ⟨Nat.lt_of_lt_of_le (hstart r hr) hs, Nat.le_trans (hbefore.stop_le r hr) hs⟩
  · rcases List.mem_append.1 hr with hr | hr
    · exact hbefore.low_le r hr
    · exact Nat.le_trans hlow (hafter.low_le r hr)
  · rcases List.mem_append.1 hr with hr | hr
    · exact Nat.le_trans (hbefore.stop_le r hr) hhigh
    · exact hafter.stop_le r hr

theorem start_lt (h : Apart low before middle) (hlt : middle < high) :
    ∀ r ∈ before, r.start < high := by
  intro r hr
  have hstop := h.stop_le r hr
  have hle := r.start_le_stop
  omega

end Apart

namespace Field

open VisibleText.Document (QuotedAttribute nodesAt partsPosition quotedAttributesAt tagAt)
open VisibleText.Markup (NodesTidy OpenTag Piece TagPart closingSource nodesSource partsSource)

/-! ## Attributes of a tag -/

/-- The bytes of the value of a quoted attribute. -/
def valueRange (q : QuotedAttribute) : ByteRange := ⟨q.valueStart, q.value.width⟩

/-- The value of a quoted attribute ends before its closing quote. -/
theorem valueRange_stop_lt (q : QuotedAttribute) :
    (valueRange q).stop < q.position + q.source.width := by
  rw [valueRange, ByteRange.stop, QuotedAttribute.valueStart, QuotedAttribute.source]
  simp only [Text.width_append, Text.width_cons, Text.width_nil, q.quote.width_mark]
  omega

theorem quotedAttributesAt_apart (position : Nat) (parts : List TagPart) :
    Apart position ((quotedAttributesAt position parts).map valueRange)
        (position + (partsSource parts).width) ∧
      ∀ r ∈ (quotedAttributesAt position parts).map valueRange,
        r.start < position + (partsSource parts).width := by
  induction parts generalizing position with
  | nil => exact ⟨.nil, fun r hr => nomatch hr⟩
  | cons part parts ih =>
    obtain ⟨hrest, hrest_lt⟩ := ih (position + part.source.width)
    rw [quotedAttributesAt, partsSource, List.flatMap_cons, ← partsSource, Text.width_append,
      ← Nat.add_assoc]
    cases hquoted : Document.quotedAt? position part with
    | none => exact ⟨hrest.mono (Nat.le_add_right _ _) (Nat.le_refl _), hrest_lt⟩
    | some q =>
      obtain ⟨rfl, hposition⟩ := Document.quotedAt?_eq_some hquoted
      have hstop := valueRange_stop_lt q
      rw [← q.source_part, hposition] at hstop
      have hlow : position ≤ (valueRange q).start := hposition ▸ Nat.le_add_right _ _
      have hlt := Nat.lt_of_le_of_lt (valueRange q).start_le_stop hstop
      simp only [Option.toList_some, List.singleton_append, List.map_cons]
      refine ⟨Apart.append (.singleton hlow (Nat.le_of_lt hstop)) ?_ hrest (Nat.le_add_right _ _)
        (Nat.le_add_right _ _), fun r hr => ?_⟩
      · intro r hr
        rw [List.mem_singleton.1 hr]
        exact hlt
      · rcases List.mem_cons.1 hr with rfl | hr
        · omega
        · exact hrest_lt r hr

/-- The attributes of a tag stand in its opening tag. -/
theorem attributeSites_apart (inside : Place) (opening : OpenTag) (position : Nat) :
    Apart position ((attributeSites inside opening position).map Site.ownRange)
        (position + opening.source.width) ∧
      ∀ r ∈ (attributeSites inside opening position).map Site.ownRange,
        r.start < position + opening.source.width := by
  obtain ⟨hparts, hparts_lt⟩ :=
    quotedAttributesAt_apart (partsPosition position opening) opening.parts
  have hbracket : (CodePoint.char '<').width = 1 := rfl
  have hwidth : partsPosition position opening + (partsSource opening.parts).width ≤
      position + opening.source.width := by
    rw [partsPosition, OpenTag.source]
    simp only [Text.width_append, Text.width_cons, hbracket]
    omega
  have hsub : ((attributeSites inside opening position).map Site.ownRange).Sublist
      ((quotedAttributesAt (partsPosition position opening) opening.parts).map valueRange) := by
    unfold attributeSites
    split
    · exact List.nil_sublist _
    · rw [List.map_map]
      exact List.filter_sublist.map valueRange
  have hlow : position ≤ partsPosition position opening := by
    rw [partsPosition]
    omega
  exact ⟨(hparts.sublist hsub).mono hlow hwidth,
    fun r hr => Nat.lt_of_lt_of_le (hparts_lt r (hsub.subset hr)) hwidth⟩

/-! ## Sites that are left out -/

mutual

theorem sitesIn_eq_nil {p : Place} (hp : p.skipped = true) (counts : LandmarkCounts)
    (position : Nat) (node : Markup.Node) : (sitesIn p counts position node).1 = [] := by
  match node with
  | .text value => simp [sitesIn, textSites, hp]
  | .comment _ => rfl
  | .doctype _ => rfl
  | .frontmatter _ => rfl
  | .expression pieces =>
    rw [sitesIn]
    exact sitesInPieces_eq_nil rfl counts (position + 1) pieces
  | .fragment children _ =>
    have hinside : Place.skipped ⟨none, (nodesAt (position + 2) children).any isStructure,
        p.skipped, p.group⟩ = true := hp
    rw [sitesIn]
    exact sitesAmong_eq_nil hinside counts (position + 2) children
  | .tag opening children _ =>
    have hinside : (p.inside counts (tagAt position opening)
        (nodesAt (position + opening.source.width) children)).skipped = true := by
      simp [Place.inside, hp]
    have hinner := sitesAmong_eq_nil hinside
      (enterTag counts p.group (tagAt position opening).kind (tagAt position opening).name).2
      (position + opening.source.width) children
    simp only [sitesIn, hinner, attributeSites, emptySites, hinside]
    rfl

theorem sitesAmong_eq_nil {p : Place} (hp : p.skipped = true) (counts : LandmarkCounts)
    (position : Nat) (nodes : List Markup.Node) : (sitesAmong p counts position nodes).1 = [] := by
  match nodes with
  | [] => rfl
  | node :: nodes =>
    rw [sitesAmong, sitesIn_eq_nil hp counts position node, sitesAmong_eq_nil hp _ _ nodes]
    rfl

theorem sitesInPieces_eq_nil {p : Place} (hp : p.skipped = true) (counts : LandmarkCounts)
    (position : Nat) (pieces : List Piece) : (sitesInPieces p counts position pieces).1 = [] := by
  match pieces with
  | [] => rfl
  | .code value :: pieces =>
    rw [sitesInPieces]
    exact sitesInPieces_eq_nil hp counts _ pieces
  | .markup node :: pieces =>
    rw [sitesInPieces, sitesIn_eq_nil hp counts position node,
      sitesInPieces_eq_nil hp _ _ pieces]
    rfl

end

/-! ## Sites of tidy nodes -/

section Single

variable {opening : OpenTag} {position : Nat}

theorem textSites_apart (p : Place) {value : Text} (value_ne : value ≠ []) (position : Nat) :
    Apart position ((textSites p value position).map Site.ownRange) (position + value.width) ∧
      ∀ r ∈ (textSites p value position).map Site.ownRange,
        r.start < position + value.width := by
  have hwidth := Text.width_pos value_ne
  unfold textSites
  split
  · exact ⟨.nil, fun r hr => nomatch hr⟩
  · refine ⟨.singleton (Nat.le_refl _) (Nat.le_refl _), fun r hr => ?_⟩
    rw [List.mem_singleton.1 hr]
    exact Nat.lt_add_of_pos_right hwidth

/-- An element that is there to hold text can have content. -/
theorem opensNothing_of_isContentElement (h : isContentElement (tagAt position opening) = true) :
    opening.opensNothing = opening.selfClosing := by
  have hall : ∀ name ∈ contentElements, Markup.isVoid name = false := by
    decide
  have hname : opening.name ∈ contentElements := by
    rw [isContentElement, Bool.and_eq_true] at h
    exact List.contains_iff_mem.1 h.2
  rw [OpenTag.opensNothing, hall _ hname, Bool.or_false]

/-- A tag with an empty site has no children and opens something. -/
theorem emptySites_eq_nil_or (inside : Place) (opening : OpenTag) (position : Nat)
    (children : List Document.Node) :
    emptySites inside opening position children = [] ∨
      (emptySites inside opening position children = [.empty inside.group opening position] ∧
        children = [] ∧ opening.opensNothing = false) := by
  unfold emptySites
  split
  · next hempty =>
    split
    · exact .inl rfl
    · next hclosing =>
      simp only [Bool.and_eq_true, List.isEmpty_iff] at hempty
      refine .inr ⟨rfl, hempty.2, ?_⟩
      rw [opensNothing_of_isContentElement hempty.1.2]
      exact Bool.eq_false_iff.2 hclosing
  · exact .inl rfl

theorem nodesAt_eq_nil {position : Nat} {nodes : List Markup.Node}
    (h : nodesAt position nodes = []) : nodes = [] := by
  cases nodes with
  | nil => rfl
  | cons node nodes => cases h

theorem width_closingSource_pos (closing : Text) : 0 < (closingSource (some closing)).width :=
  Text.width_pos (List.cons_ne_nil _ _)

/-- What stands one behind the other between the brackets of a fragment does so in the fragment,
and starts before its end if the fragment was closed. -/
theorem fragment_apart {inner : List ByteRange} (children : List Markup.Node)
    (closing : Option Text)
    (hinner : Apart (position + 2) inner (position + 2 + (nodesSource children).width)) :
    Apart position inner (position + (Markup.Node.fragment children closing).source.width) ∧
      ((Markup.Node.fragment children closing).isUnclosed = false →
        ∀ r ∈ inner, r.start < position + (Markup.Node.fragment children closing).source.width) := by
  have hwidth : (Markup.Node.fragment children closing).source.width =
      2 + (nodesSource children).width + (closingSource closing).width := by
    have hopen : (CodePoint.char '<').width = 1 := rfl
    have hclose : (CodePoint.char '>').width = 1 := rfl
    rw [Markup.Node.source]
    simp only [Text.width_append, Text.width_cons, hopen, hclose]
    omega
  rw [hwidth]
  refine ⟨hinner.mono (by omega) (by omega), fun hclosed => ?_⟩
  cases closing with
  | none => cases hclosed
  | some closing =>
    have hpos := width_closingSource_pos closing
    exact hinner.start_lt (by omega)

/-- The empty site of a tag stands where its children would. -/
theorem content_apart (inside : Place) {children : List Markup.Node} {inner : List Site}
    (hnone : children = [] → inner = [])
    (hinner : Apart (position + opening.source.width) (inner.map Site.ownRange)
      (position + opening.source.width + (nodesSource children).width)) :
    Apart (position + opening.source.width)
      ((inner ++ emptySites inside opening position
        (nodesAt (position + opening.source.width) children)).map Site.ownRange)
      (position + opening.source.width + (nodesSource children).width) := by
  rcases emptySites_eq_nil_or inside opening position
    (nodesAt (position + opening.source.width) children) with hempty | ⟨hsite, hnil, -⟩
  · rw [hempty, List.append_nil]
    exact hinner
  · obtain rfl := nodesAt_eq_nil hnil
    rw [hsite, hnone rfl]
    exact .singleton (Nat.le_refl _) (Nat.le_refl _)

/-- The sites of a tag stand one behind the other if those of its children do, and unless the tag
was left open, none of them starts at its end. -/
theorem tag_apart (inside : Place) {children : List Markup.Node} {inner : List Site}
    (closing : Option Text) (hnothing : opening.opensNothing = true → children = [])
    (hnone : children = [] → inner = [])
    (hinner : Apart (position + opening.source.width) (inner.map Site.ownRange)
      (position + opening.source.width + (nodesSource children).width)) :
    Apart position
        ((attributeSites inside opening position ++ inner ++ emptySites inside opening position
          (nodesAt (position + opening.source.width) children)).map Site.ownRange)
        (position + (Markup.Node.tag opening children closing).source.width) ∧
      ((Markup.Node.tag opening children closing).isUnclosed = false →
        ∀ r ∈ (attributeSites inside opening position ++ inner ++ emptySites inside opening position
            (nodesAt (position + opening.source.width) children)).map Site.ownRange,
          r.start < position + (Markup.Node.tag opening children closing).source.width) := by
  obtain ⟨hown, hown_lt⟩ := attributeSites_apart inside opening position
  have hwidth : (Markup.Node.tag opening children closing).source.width =
      opening.source.width + (nodesSource children).width + (closingSource closing).width := by
    rw [Markup.Node.source, Text.width_append, Text.width_append]
  have hall := hown.append hown_lt (content_apart inside hnone hinner) (Nat.le_add_right _ _)
    (Nat.le_add_right _ _)
  rw [hwidth, List.append_assoc, List.map_append]
  refine ⟨hall.mono (Nat.le_refl _) (by omega), fun hclosed => ?_⟩
  cases closing with
  | some closing =>
    have hpos := width_closingSource_pos closing
    exact hall.start_lt (by omega)
  | none =>
    -- a tag that opens nothing has no sites but those of its attributes
    have hopens : opening.opensNothing = true := by simpa [Markup.Node.isUnclosed] using hclosed
    intro r hr
    rcases List.mem_append.1 hr with hr | hr
    · exact Nat.lt_of_lt_of_le (hown_lt r hr) (by omega)
    · rw [hnone (hnothing hopens), List.nil_append] at hr
      rcases emptySites_eq_nil_or inside opening position
        (nodesAt (position + opening.source.width) children) with hempty | ⟨-, -, hopens'⟩
      · rw [hempty] at hr
        cases hr
      · rw [hopens] at hopens'
        cases hopens'

end Single

mutual

/-- The sites in a tidy node stand one behind the other in the node, and unless the node was left
open, none of them starts at its end. -/
theorem sitesIn_apart {node : Markup.Node} (htidy : node.Tidy) (p : Place)
    (counts : LandmarkCounts) (position : Nat) :
    Apart position ((sitesIn p counts position node).1.map Site.ownRange)
        (position + node.source.width) ∧
      (node.isUnclosed = false →
        ∀ r ∈ (sitesIn p counts position node).1.map Site.ownRange,
          r.start < position + node.source.width) := by
  match node with
  | .text value =>
    obtain ⟨happart, hlt⟩ := textSites_apart p htidy position
    exact ⟨happart, fun _ => hlt⟩
  | .comment _ => exact ⟨.nil, fun _ r hr => nomatch hr⟩
  | .doctype _ => exact ⟨.nil, fun _ r hr => nomatch hr⟩
  | .frontmatter _ => exact ⟨.nil, fun _ r hr => nomatch hr⟩
  | .expression pieces =>
    -- everything in an expression is left out
    rw [sitesIn, sitesInPieces_eq_nil rfl]
    exact ⟨.nil, fun _ r hr => nomatch hr⟩
  | .fragment children closing =>
    rw [sitesIn]
    exact fragment_apart children closing (sitesAmong_apart htidy _ counts (position + 2))
  | .tag opening children closing =>
    obtain ⟨hnothing, hchildren⟩ := htidy
    have hinner := sitesAmong_apart hchildren
      (p.inside counts (tagAt position opening)
        (nodesAt (position + opening.source.width) children))
      (enterTag counts p.group (tagAt position opening).kind (tagAt position opening).name).2
      (position + opening.source.width)
    rw [sitesIn]
    refine tag_apart _ closing hnothing (fun hnil => ?_) hinner
    rw [hnil]
    rfl

theorem sitesAmong_apart {nodes : List Markup.Node} (htidy : NodesTidy nodes) (p : Place)
    (counts : LandmarkCounts) (position : Nat) :
    Apart position ((sitesAmong p counts position nodes).1.map Site.ownRange)
      (position + (nodesSource nodes).width) := by
  match nodes with
  | [] => exact .nil
  | node :: nodes =>
    obtain ⟨hnode, hopen, hnodes⟩ := htidy
    obtain ⟨hfirst, hfirst_lt⟩ := sitesIn_apart hnode p counts position
    rw [sitesAmong, nodesSource, Text.width_append, List.map_append]
    cases hunclosed : node.isUnclosed with
    | true =>
      -- nothing stands behind a node that was left open
      rw [hopen hunclosed]
      simpa [sitesAmong, nodesSource] using hfirst
    | false =>
      have hothers := sitesAmong_apart hnodes p (sitesIn p counts position node).2
        (position + node.source.width)
      rw [Nat.add_assoc] at hothers
      exact hfirst.append (hfirst_lt hunclosed) hothers (by omega) (by omega)

end

/-- The sites of a page stand one behind the other in the page. -/
theorem sitesOf_apart (page : Text) : Apart 0 ((sitesOf page).map Site.ownRange) page.width := by
  unfold sitesOf Markup.nodesOf
  cases hread : Markup.readPage page with
  | error failure => exact .nil
  | ok nodes =>
    have key := sitesAmong_apart (Markup.nodesTidy_of_readPage hread)
      ⟨none, (nodesAt 0 nodes).any isStructure, false, []⟩ [] 0
    rwa [Markup.nodesSource_of_readPage hread, Nat.zero_add] at key

end Field

end VisibleText
