import VisibleText.Proofs.Frontmatter
import VisibleText.Proofs.SiteOrder

/-!
# Revising what a site holds

A revision of a site gives its text, or its attribute, another value (`Site.Revises`). The markup
that the site was found in is altered by it (`exists_alters_of_mem_sitesAmong`), and a page of
which one site was revised is read as the revised document (`exists_parse_of_revises`).
-/

set_option autoImplicit false

namespace VisibleText.Field

open VisibleText.Document (Alters AltersAmong QuotedAttribute Revision nodeAt nodesAt
  partsPosition piecesAt quotedAttributesAt tagAt walkAll)
open VisibleText.Markup (Fenced OpenTag Piece Readable ReadsPage frontNodes nodesSource
  openingFence?)

variable {r : Revision} {s : Site}

/-! ## Altered markup -/

/-- A revision that gives the text or the attribute of a site another value, which does not hold
the quote around it. -/
inductive Site.Revises (r : Revision) : Site → Prop
  | text {label value group : Text} {position : Nat} (eq : r = .ofText position value r.new) :
      Revises r (.text label value group position)
  | quoted {group : Text} {opening : OpenTag} {position : Nat} {q : QuotedAttribute}
      (eq : r = .ofQuoted q r.new) (proper : q.quote.mark ∉ r.new) :
      Revises r (.quoted group opening position q)

/-- None of some nodes is a text that ends where a revised text starts. -/
def TextsApart (r : Revision) (nodes : List Document.Node) : Prop :=
  r.kind = .text → ∀ value position, .text value position ∈ nodes →
    position + value.width ≠ r.start

theorem TextsApart.mono {nodes nodes' : List Document.Node} (h : TextsApart r nodes)
    (hsub : ∀ node ∈ nodes', node ∈ nodes) : TextsApart r nodes' :=
  fun hkind value position hmem => h hkind value position (hsub _ hmem)

theorem isSkipped_of_isRaw {opening : OpenTag} (position : Nat)
    (h : Markup.isRaw opening.name = true) : isSkipped (tagAt position opening) = true := by
  rw [Markup.isRaw, Bool.and_eq_true, Bool.not_eq_true'] at h
  have hskipped : ∀ name ∈ Markup.rawElements, name ∈ skippedElements := by
    decide
  rw [isSkipped, Bool.and_eq_true, tagAt, h.1]
  exact ⟨rfl, List.contains_iff_mem.2 (hskipped _ (List.contains_iff_mem.1 h.2))⟩

/-- A revision of an attribute alters its tag. -/
theorem exists_alters_of_mem_attributeSites (hrevises : s.Revises r) {inside : Place}
    {opening : OpenTag} {position : Nat} (hs : s ∈ attributeSites inside opening position)
    (children : List Markup.Node) (closing : Option Text) :
    ∃ node', Alters r position (.tag opening children closing) node' := by
  unfold attributeSites at hs
  split at hs
  · cases hs
  · obtain ⟨q, hq, rfl⟩ := List.mem_map.1 hs
    obtain ⟨before, after, hparts, hposition⟩ :=
      Document.exists_of_mem_quotedAttributesAt (List.mem_filter.1 hq).1
    cases hrevises with
    | quoted eq proper => exact ⟨_, .quoted before after q hparts hposition proper eq⟩

mutual

/-- A revision of a site alters the node that the site was found in. -/
theorem exists_alters_of_mem_sitesIn (hrevises : s.Revises r) (p : Place) (counts : LandmarkCounts)
    (position : Nat) (node : Markup.Node) (hs : s ∈ (sitesIn p counts position node).1)
    (hapart : TextsApart r (nodeAt position node).walk) :
    ∃ node', Alters r position node node' := by
  match node with
  | .text value =>
    rw [sitesIn, textSites] at hs
    split at hs
    · cases hs
    · rw [List.mem_singleton.1 hs] at hrevises
      cases hrevises with
      | text eq => exact ⟨_, .text eq⟩
  | .comment _ | .doctype _ | .frontmatter _ => cases hs
  | .expression pieces =>
    rw [sitesIn, sitesInPieces_eq_nil rfl] at hs
    cases hs
  | .fragment children closing =>
    obtain ⟨children', inside⟩ := exists_alters_of_mem_sitesAmong hrevises _ _ _ children hs
      (hapart.mono fun _ hnode => .tail _ hnode)
    exact ⟨.fragment children' closing, .fragment inside⟩
  | .tag opening children closing =>
    rw [sitesIn, List.append_assoc, List.mem_append, List.mem_append] at hs
    rcases hs with hs | hs | hs
    · exact exists_alters_of_mem_attributeSites hrevises hs children closing
    · obtain ⟨children', inside⟩ := exists_alters_of_mem_sitesAmong hrevises _ _ _ children hs
        (hapart.mono fun _ hnode => .tail _ hnode)
      refine ⟨.tag opening children' closing, .child ?_ inside⟩
      -- there are no sites in raw content
      rw [Bool.eq_false_iff]
      intro hraw
      rw [sitesAmong_eq_nil (by simp [Place.inside, isSkipped_of_isRaw position hraw])] at hs
      cases hs
    · rcases emptySites_eq_nil_or (p.inside counts (tagAt position opening)
        (nodesAt (position + opening.source.width) children)) opening position
        (nodesAt (position + opening.source.width) children) with hnil | ⟨hempty, -⟩
      · rw [hnil] at hs
        cases hs
      · rw [hempty, List.mem_singleton] at hs
        rw [hs] at hrevises
        cases hrevises

theorem exists_alters_of_mem_sitesAmong (hrevises : s.Revises r) (p : Place)
    (counts : LandmarkCounts) (position : Nat) (nodes : List Markup.Node)
    (hs : s ∈ (sitesAmong p counts position nodes).1)
    (hapart : TextsApart r (walkAll (nodesAt position nodes))) :
    ∃ nodes', AltersAmong r position nodes nodes' := by
  match nodes with
  | [] => cases hs
  | node :: nodes =>
    rcases List.mem_append.1 hs with hs | hs
    · obtain ⟨node', first⟩ := exists_alters_of_mem_sitesIn hrevises p counts position node hs
        (hapart.mono fun _ hnode => List.mem_append_left _ hnode)
      exact ⟨node' :: nodes, .head first⟩
    · obtain ⟨nodes', others⟩ := exists_alters_of_mem_sitesAmong hrevises p _ _ nodes hs
        (hapart.mono fun _ hnode => List.mem_append_right _ hnode)
      refine ⟨node :: nodes', .tail (fun hkind value heq => ?_) others⟩
      rw [heq] at hapart
      exact hapart hkind value position (.head _)

end

/-! ## Sites behind frontmatter -/

theorem sitesAmong_append (p : Place) (counts : LandmarkCounts) (position : Nat)
    (before after : List Markup.Node) :
    (sitesAmong p counts position (before ++ after)).1 =
      (sitesAmong p counts position before).1 ++
        (sitesAmong p (sitesAmong p counts position before).2
          (position + (nodesSource before).width) after).1 := by
  induction before generalizing counts position with
  | nil => rfl
  | cons node before ih =>
    rw [List.cons_append, sitesAmong, ih, sitesAmong, nodesSource, Text.width_append,
      List.append_assoc, Nat.add_assoc]

/-- There are no sites in frontmatter, nor in the blanks before it. -/
theorem sitesAmong_frontNodes {p : Place} (hp : p.parent = none) (counts : LandmarkCounts)
    (position : Nat) {blanks : Text} (hblanks : blanks.isBlank = true) (value : Text) :
    (sitesAmong p counts position (frontNodes blanks value)).1 = [] := by
  have hkeeps : p.keepsBlanks = false := by
    simp [Place.keepsBlanks, hp]
  unfold frontNodes
  split
  · rfl
  · simp [sitesAmong, sitesIn, textSites, hblanks, hkeeps]

/-- The sites of a page stand behind its frontmatter. -/
theorem exists_mem_sitesAmong {page : Text} {front nodes : List Markup.Node}
    (hpage : ReadsPage page front nodes) (hs : s ∈ sitesOf page) :
    ∃ p counts, s ∈ (sitesAmong p counts (nodesSource front).width nodes).1 := by
  have hnodes : Markup.nodesOf page = .ok (front ++ nodes) := by
    rw [Markup.nodesOf, hpage.readPage]
    rfl
  rw [sitesOf, hnodes] at hs
  simp only [sites, sitesAmong_append, Nat.zero_add] at hs
  rcases List.mem_append.1 hs with hs | hs
  · rcases Markup.readFrontmatter_cases hpage.front with ⟨-, heq⟩ |
      ⟨blanks, fence, code, hfenced, -, hfront⟩
    · rw [(Markup.Taken.mk.inj heq).1] at hs
      cases hs
    · simp only at hfront
      rw [hfront, sitesAmong_frontNodes rfl _ _ hfenced.blank] at hs
      cases hs
  · exact ⟨_, _, hs⟩

theorem nodesAt_append (position : Nat) (before after : List Markup.Node) :
    nodesAt position (before ++ after) =
      nodesAt position before ++ nodesAt (position + (nodesSource before).width) after := by
  induction before generalizing position with
  | nil => rfl
  | cons node before ih =>
    rw [List.cons_append, nodesAt, ih, nodesAt, nodesSource, Text.width_append, List.cons_append,
      Nat.add_assoc]

theorem walkAll_append (before after : List Document.Node) :
    walkAll (before ++ after) = walkAll before ++ walkAll after := by
  induction before with
  | nil => rfl
  | cons node before ih => rw [List.cons_append, walkAll, ih, walkAll, List.append_assoc]

/-- A page that was read is read as the layout of its nodes. -/
theorem parse_of_readsPage {page : Text} {front nodes : List Markup.Node}
    (h : ReadsPage page front nodes) :
    Document.parse page = .ok ⟨nodesAt 0 (front ++ nodes)⟩ := by
  rw [Document.parse, Markup.nodesOf, h.readPage]
  rfl

theorem exists_readsPage_of_parse {page : Text} {d : Document} (h : Document.parse page = .ok d) :
    ∃ front nodes, ReadsPage page front nodes ∧ d = ⟨nodesAt 0 (front ++ nodes)⟩ := by
  obtain ⟨nodes, hnodes, rfl⟩ := Markup.exists_of_map_eq_ok h
  have hread : Markup.readPage page = .ok nodes := by
    rw [Markup.nodesOf] at hnodes
    cases hpage : Markup.readPage page with
    | error failure =>
      rw [hpage] at hnodes
      cases hnodes
    | ok nodes' =>
      rw [hpage] at hnodes
      cases hnodes
      rfl
  obtain ⟨front, content, hpage, rfl⟩ := Markup.exists_readsPage hread
  exact ⟨front, content, hpage, rfl⟩

/-- A revision of a site alters the nodes behind the frontmatter. -/
theorem exists_alters_of_mem_sitesOf {page : Text} {front nodes : List Markup.Node}
    (hpage : ReadsPage page front nodes) (hs : s ∈ sitesOf page) (hrevises : s.Revises r)
    (hapart : TextsApart r (walkAll (nodesAt 0 (front ++ nodes)))) :
    ∃ nodes', AltersAmong r (nodesSource front).width nodes nodes' := by
  obtain ⟨p, counts, hs⟩ := exists_mem_sitesAmong hpage hs
  rw [nodesAt_append, Nat.zero_add, walkAll_append] at hapart
  exact exists_alters_of_mem_sitesAmong hrevises p counts _ nodes hs
    (hapart.mono fun _ hnode => List.mem_append_right _ hnode)

theorem reviseAll_append (r : Revision) (before after : List Document.Node) :
    Document.reviseAll r (before ++ after) =
      Document.reviseAll r before ++ Document.reviseAll r after := by
  induction before with
  | nil => rfl
  | cons node before ih =>
    rw [List.cons_append, Document.reviseAll, ih, Document.reviseAll, List.cons_append]

/-- The layout of an altered page is the revised document. -/
theorem revise_of_alters (hr : r.Proper) {front nodes nodes' : List Markup.Node}
    (halters : AltersAmong r (nodesSource front).width nodes nodes') :
    Document.revise r ⟨nodesAt 0 (front ++ nodes)⟩ = ⟨nodesAt 0 (front ++ nodes')⟩ := by
  have hle := halters.le_position
  rw [Document.revise, nodesAt_append, nodesAt_append, Nat.zero_add, reviseAll_append,
    Document.revise_nodesAt_of_le hr _ (by omega),
    Document.revise_nodesAt_of_alters hr halters]

/-- Frontmatter stands in the document of its page. -/
theorem frontmatter_mem_frontNodes (blanks value : Text) (others : List Markup.Node) :
    .frontmatter value blanks.width ∈ nodesAt 0 (frontNodes blanks value ++ others) := by
  unfold frontNodes
  split
  · next hempty =>
    rw [List.isEmpty_iff.1 hempty]
    exact .head _
  · simp only [List.cons_append, List.nil_append, nodesAt, Nat.zero_add, Markup.Node.source]
    exact .tail _ (.head _)

theorem of_frontmatter_mem_frontNodes {blanks found value : Text} {position : Nat}
    (hmem : .frontmatter value position ∈ nodesAt 0 (frontNodes blanks found)) :
    value = found ∧ position = blanks.width := by
  unfold frontNodes at hmem
  split at hmem
  · next hempty =>
    simp only [List.nil_append, nodesAt, nodeAt, List.mem_singleton] at hmem
    cases hmem
    rw [List.isEmpty_iff.1 hempty]
    exact ⟨rfl, rfl⟩
  · simp only [List.cons_append, List.nil_append, nodesAt, nodeAt, Nat.zero_add, List.mem_cons,
      List.not_mem_nil, or_false, reduceCtorEq, false_or, Markup.Node.source] at hmem
    cases hmem
    exact ⟨rfl, rfl⟩

theorem frontmatter_mem_of_nodesAt {value : Text} {position start : Nat}
    {nodes : List Markup.Node} (hmem : .frontmatter value position ∈ nodesAt start nodes) :
    .frontmatter value ∈ nodes := by
  induction nodes generalizing start with
  | nil => cases hmem
  | cons node nodes ih =>
    rcases List.mem_cons.1 hmem with heq | hmem
    · cases node with
      | frontmatter => cases heq; exact .head _
      | text | comment | doctype | expression | tag | fragment => cases heq
    · exact .tail _ (ih hmem)

/-- Frontmatter in a document is what the page was found to start with. -/
theorem of_frontmatter_mem {page value : Text} {front nodes : List Markup.Node} {position : Nat}
    (hpage : ReadsPage page front nodes)
    (hmem : .frontmatter value position ∈ nodesAt 0 (front ++ nodes)) :
    ∃ blanks fence code, Fenced blanks fence code (nodesSource nodes) ∧
      front = frontNodes blanks value ∧ value = fence ++ code ∧ position = blanks.width := by
  rw [nodesAt_append] at hmem
  rcases List.mem_append.1 hmem with hmem | hmem
  · rcases Markup.readFrontmatter_cases hpage.front with ⟨-, heq⟩ |
      ⟨blanks, fence, code, hfenced, -, hfront⟩
    · rw [(Markup.Taken.mk.inj heq).1] at hmem
      cases hmem
    · simp only at hfront
      rw [hfront] at hmem ⊢
      obtain ⟨rfl, rfl⟩ := of_frontmatter_mem_frontNodes hmem
      exact ⟨blanks, fence, code, hfenced, rfl, rfl, rfl⟩
  · exact absurd (frontmatter_mem_of_nodesAt hmem) (hpage.frontmatter_not_mem value)

/-- What the revised page must be like at its start, and behind its frontmatter: it has to start
with frontmatter just if the page did, and the closing fence has to end its line. -/
structure KeepsFences (r : Revision) (d : Document) (page' : Text) : Prop where
  start : r.start = 0 → openingFence? (page'.dropWhile CodePoint.isBlank) = none
  behind : ∀ value position, .frontmatter value position ∈ d.children →
    position + value.width = r.start → r.new.head? = some (.char '\n')

theorem frontmatter_mem_reviseAll {value : Text} {position : Nat} {nodes : List Document.Node}
    (hmem : .frontmatter value position ∈ nodes) :
    .frontmatter value (r.place position) ∈ Document.reviseAll r nodes := by
  induction nodes with
  | nil => cases hmem
  | cons node nodes ih =>
    rcases List.mem_cons.1 hmem with rfl | hmem
    · exact .head _
    · exact .tail _ (ih hmem)

theorem exists_frontmatter_of_mem_reviseAll {value : Text} {position : Nat}
    {nodes : List Document.Node} (hmem : .frontmatter value position ∈ Document.reviseAll r nodes) :
    ∃ position', .frontmatter value position' ∈ nodes := by
  induction nodes with
  | nil => cases hmem
  | cons node nodes ih =>
    rcases List.mem_cons.1 hmem with heq | hmem
    · cases node with
      | frontmatter => cases heq; exact ⟨_, .head _⟩
      | text | comment | doctype | expression | tag | fragment => cases heq
    · obtain ⟨position', hmem⟩ := ih hmem
      exact ⟨position', .tail _ hmem⟩

/-- A text that starts like another one as wide as its front has that front. -/
theorem append_inj_of_width_eq {u v u' v' : Text} (h : u ++ v = u' ++ v')
    (hwidth : u.width = u'.width) : u = u' ∧ v = v' := by
  rcases List.append_eq_append_iff.1 h with ⟨more, rfl, rfl⟩ | ⟨more, rfl, rfl⟩
  all_goals
    rw [Text.width_append] at hwidth
    have hnil : more = [] := by
      by_contra more_ne
      have := Text.width_pos more_ne
      omega
    simp [hnil]

/-- A page that is read as the revised document has its fences kept. -/
theorem keepsFences_of_parse (hnew : r.new ≠ []) (hproper : r.Proper) {page page' : Text}
    {front nodes : List Markup.Node} (hpage : ReadsPage page front nodes)
    (hle : (nodesSource front).width ≤ r.position) (hsplices : r.Splices 0 page page')
    (hparse : Document.parse page' = .ok (Document.revise r ⟨nodesAt 0 (front ++ nodes)⟩)) :
    KeepsFences r ⟨nodesAt 0 (front ++ nodes)⟩ page' := by
  obtain ⟨front', nodes', hpage', hrevise⟩ := exists_readsPage_of_parse hparse
  have hchildren := congrArg Document.children hrevise
  simp only [Document.revise] at hchildren
  constructor
  · intro hzero
    rcases Markup.readFrontmatter_cases hpage'.front with ⟨hnone, -⟩ |
      ⟨blanks, fence, code, -, -, hfront⟩
    · exact hnone
    · -- new frontmatter would stand in the revised document, and so in the document before
      simp only at hfront
      have hmem := frontmatter_mem_frontNodes blanks (fence ++ code) nodes'
      rw [← hfront, ← hchildren] at hmem
      obtain ⟨position, hmem⟩ := exists_frontmatter_of_mem_reviseAll hmem
      obtain ⟨blanks, fence, code, hfenced, rfl, hvalue, -⟩ := of_frontmatter_mem hpage hmem
      rw [Markup.nodesSource_frontNodes, Text.width_append, hvalue] at hle
      have hle' := hproper.position_le
      have hwidth := Text.width_pos hfenced.source_ne
      omega
  · intro value position hmem hbehind
    have hplace : r.place position = position := Revision.place_of_lt (by
      have := Text.width_pos hproper.old_ne
      rw [Revision.stop]
      omega)
    have hmem' := frontmatter_mem_reviseAll (r := r) hmem
    rw [hchildren, hplace] at hmem'
    obtain ⟨blanks, fence, code, hfenced, rfl, hvalue, rfl⟩ := of_frontmatter_mem hpage' hmem'
    -- what is left behind the fence starts with the new value
    obtain ⟨before, behind, -, hsplit, hbefore⟩ := hsplices
    have hsource := Markup.nodesSource_of_readPage hpage'.readPage
    rw [Markup.nodesSource_append, Markup.nodesSource_frontNodes, hsplit,
      List.append_assoc before] at hsource
    have hwidth : (blanks ++ value).width = before.width := by
      rw [Text.width_append]
      omega
    obtain ⟨-, hleft⟩ := append_inj_of_width_eq hsource hwidth
    rw [hleft] at hfenced
    rcases Markup.lineFeed_of_throughClosingFence? hfenced.closing with hnil | hfeed
    · exact absurd (List.append_eq_nil_iff.1 hnil).1 hnew
    · rwa [List.head?_append_of_ne_nil _ hnew] at hfeed

/-- A page of which one site was revised is read as the revised document just if its fences are
kept. -/
theorem exists_parse_of_revises {page : Text} {d : Document}
    (hparse : Document.parse page = .ok d) (hs : s ∈ sitesOf page) (hrevises : s.Revises r)
    (hreadable : Readable r) (hproper : r.Proper) (hapart : TextsApart r d.nodes) :
    (∃ x ∈ d.nodes, x.Bears r) ∧ ∃ page', r.Splices 0 page page' ∧
      (Document.parse page' = .ok (d.revise r) ↔ (r.kind = .text → KeepsFences r d page')) := by
  obtain ⟨front, nodes, hpage, rfl⟩ := exists_readsPage_of_parse hparse
  obtain ⟨nodes', halters⟩ := exists_alters_of_mem_sitesOf hpage hs hrevises hapart
  have hsource : page = nodesSource front ++ nodesSource nodes := by
    rw [← Markup.nodesSource_of_readPage hpage.readPage, Markup.nodesSource_append]
  have hsplices : r.Splices 0 page (nodesSource front ++ nodesSource nodes') := by
    have hbehind := halters.splices
    rw [← Nat.zero_add (nodesSource front).width] at hbehind
    rw [hsource]
    exact hbehind.prepend
  refine ⟨?_, _, hsplices, fun hparse' hkind => ?_, fun hkeeps => ?_⟩
  · obtain ⟨x, hx, hbears⟩ := halters.exists_bears
    refine ⟨x, ?_, hbears⟩
    rw [Document.nodes, nodesAt_append, Nat.zero_add, walkAll_append]
    exact List.mem_append_right _ hx
  · exact keepsFences_of_parse (hreadable hkind).ne_nil hproper hpage halters.le_position hsplices
      hparse'
  · -- a text that does not touch the fences is altered within the content
    rw [revise_of_alters hproper halters]
    refine parse_of_readsPage (hpage.alters hreadable halters ?_ ?_)
    · rintro hkind rfl hzero
      exact (hkeeps hkind).start hzero
    · intro hkind front_ne hstart
      rcases Markup.readFrontmatter_cases hpage.front with ⟨-, heq⟩ |
        ⟨blanks, fence, code, hfenced, -, hfront⟩
      · exact absurd (Markup.Taken.mk.inj heq).1 front_ne
      · simp only at hfront
        rw [hfront, Markup.nodesSource_frontNodes, Text.width_append] at hstart
        refine (hkeeps hkind).behind _ _ ?_ hstart.symm
        rw [hfront]
        exact frontmatter_mem_frontNodes _ _ _

end VisibleText.Field
