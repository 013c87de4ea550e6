import Mathlib.Data.List.Chain
import VisibleText.Proofs.EditableText
import VisibleText.Proofs.Frontmatter
import VisibleText.Proofs.Occurrences

/-!
# Runs of text

A run of text ends before a brace, and before an angle bracket that a slash, an exclamation mark,
another bracket or a sign of words follows. What is read there is markup, but for one thing: a
numeral is a sign of words and no letter, so that an angle bracket before it ends the run without
opening a tag, and is read as the start of the next run (`isText_iff_opensNumeral`).

`Separated` says of nodes that stand one after the other that runs of text are neighbours only
there. It holds of the content of every tag and of the page, so that in a document another text
follows a text just where an angle bracket stands before a numeral (`neighbours_isText_iff`).
-/

set_option autoImplicit false

namespace VisibleText.Markup

/-! ## Where a run ends -/

/-- Whether a node is a run of text. -/
def Node.isText : Node → Bool
  | .text _ => true
  | _ => false

/-- Whether an angle bracket stands before a numeral that is no letter. -/
def opensNumeral : Text → Bool
  | .char '<' :: c :: _ => c.isNumeral && !c.isLetter
  | _ => false

variable {inner : Readers} {opened : List Text} {left rest : Text} {node : Node}

theorem exists_of_opensNumeral (h : opensNumeral left = true) :
    ∃ c t, left = .char '<' :: c :: t ∧ c.isNumeral = true ∧ c.isLetter = false := by
  unfold opensNumeral at h
  split at h
  · simp only [Bool.and_eq_true, Bool.not_eq_true'] at h
    exact ⟨_, _, rfl, h⟩
  · cases h

/-- Where a run ends and no markup starts, an angle bracket stands before a numeral. -/
theorem opensNumeral_of_endsText (hends : endsText left = true)
    (doctype : (text "<!").isPrefixOf left = false) (closing : (text "</").isPrefixOf left = false)
    (opens : opensTag left = false) (brace : left.head? ≠ some (.char '{')) :
    opensNumeral left = true := by
  rcases TextEnds.head_cases (.inr hends) with rfl | ⟨t, rfl⟩ | ⟨c, t, rfl, hsign⟩
  · cases hends
  · exact absurd rfl brace
  · have hopens : (c == .char '>' || c.isLetter) = false := opens
    simp only [Bool.or_eq_false_iff, beq_eq_false_iff_ne] at hopens
    simp only [Bool.or_eq_true, CodePoint.isWordSign, hopens.2, Bool.false_eq_true,
      false_or] at hsign
    rcases hsign with hmark | hnumeral
    · -- each of the three marks starts markup
      cases c with
      | surrogate s => cases hmark
      | char d =>
        simp only [CodePoint.isAmong, List.contains_eq_mem, List.mem_cons, List.not_mem_nil,
          or_false, decide_eq_true_eq] at hmark
        rcases hmark with rfl | rfl | rfl
        · cases closing
        · cases doctype
        · exact absurd rfl hopens.1
    · simp [opensNumeral, hnumeral, hopens.2]

/-- An angle bracket before a numeral is read as text. -/
theorem readItem_of_opensNumeral (h : opensNumeral left = true) :
    readItem inner opened left = .ok ⟨.node (.text (textRun left).1), (textRun left).2⟩ := by
  obtain ⟨c, t, rfl, numeral, letter⟩ := exists_of_opensNumeral h
  have hne {d : Char} (hd : (CodePoint.char d).isNumeral = false) : CodePoint.char d ≠ c := by
    rintro rfl
    cases hd.symm.trans numeral
  have hmark (d : Char) (more : Text) (hd : (CodePoint.char d).isNumeral = false) :
      List.isPrefixOf (CodePoint.char '<' :: .char d :: more) (.char '<' :: c :: t) = false := by
    simp [List.isPrefixOf, hne hd]
  have hopens : opensTag (.char '<' :: c :: t) = false := by
    have hbracket : (c == .char '>') = false :=
      beq_eq_false_iff_ne.2 (hne (d := '>') (by decide)).symm
    rw [opensTag, hbracket, letter]
    rfl
  have hcomment : (text "<!--").isPrefixOf (.char '<' :: c :: t) = false :=
    hmark '!' (text "--") (by decide)
  have hdoctype : (text "<!").isPrefixOf (.char '<' :: c :: t) = false := hmark '!' [] (by decide)
  have hclosing : (text "</").isPrefixOf (.char '<' :: c :: t) = false := hmark '/' [] (by decide)
  have hbrace : (CodePoint.char '<' :: c :: t).head? ≠ some (.char '{') := by
    rw [List.head?_cons]
    decide
  simp only [readItem, hcomment, hdoctype, hclosing, hopens, hbrace, Bool.false_eq_true, if_false]

/-- A run of text that was read starts no markup, and goes on up to where a run ends. -/
theorem run_of_isText (hinner : inner.Local)
    (h : readItem inner opened left = .ok ⟨.node node, rest⟩) (hnode : node.isText = true) :
    (endsText left = true → opensNumeral left = true) ∧ TextEnds rest := by
  rcases readItem_node_cases h with ⟨value, rfl, -⟩ | ⟨value, rfl, -, -⟩ | ⟨-, htag⟩ |
    ⟨pieces, rfl, -, -⟩ | ⟨run, rfl, doctype, closing, opens, brace, hrun⟩
  · cases hnode
  · cases hnode
  · -- what a tag is read as is a tag
    have hisTag := hinner.isTag htag
    cases node with
    | text => cases hisTag
    | _ => cases hnode
  · cases hnode
  · have hends := textRun_ends left
    rw [hrun] at hends
    exact ⟨fun h => opensNumeral_of_endsText h doctype closing opens brace, hends⟩

/-- Where a run of text ends, text is read just if an angle bracket stands before a numeral. -/
theorem isText_iff_opensNumeral (hinner : inner.Local) (hends : endsText left = true)
    (h : readItem inner opened left = .ok ⟨.node node, rest⟩) :
    node.isText = true ↔ opensNumeral left = true := by
  constructor
  · intro hnode
    exact (run_of_isText hinner h hnode).1 hends
  · intro hnumeral
    rw [readItem_of_opensNumeral hnumeral] at h
    cases h
    rfl

/-! ## Runs that are neighbours -/

/-- Nodes that start where `left` is left of the page: behind a run of text another one follows
just where an angle bracket stands before a numeral. -/
inductive Separated : (left : Text) → List Node → Prop
  | nil {left : Text} : Separated left []
  | single {left : Text} {node : Node} : Separated left [node]
  | cons {behind : Text} {node next : Node} {nodes : List Node}
      (parted : node.isText = true → (next.isText = true ↔ opensNumeral behind = true))
      (tail : Separated behind (next :: nodes)) :
      Separated (node.source ++ behind) (node :: next :: nodes)

theorem Separated.cons_of_not_isText {behind : Text} {nodes : List Node}
    (hnode : node.isText = false) (h : Separated behind nodes) :
    Separated (node.source ++ behind) (node :: nodes) := by
  cases nodes with
  | nil => exact .single
  | cons next nodes => exact .cons (fun htext => absurd (hnode.symm.trans htext) nofun) h

theorem Separated.exists_behind {front back : List Node} {value : Text} {next : Node}
    (h : Separated left (front ++ .text value :: next :: back)) :
    ∃ behind, left = nodesSource front ++ (value ++ behind) ∧
      (next.isText = true ↔ opensNumeral behind = true) := by
  induction front generalizing left with
  | nil =>
    cases h with
    | @cons behind _ _ _ parted tail => exact ⟨behind, rfl, parted rfl⟩
  | cons node front ih =>
    obtain ⟨second, others, hothers⟩ : ∃ second others,
        front ++ .text value :: next :: back = second :: others :=
      List.exists_cons_of_ne_nil (by simp)
    rw [List.cons_append, hothers] at h
    cases h with
    | cons parted tail =>
      rw [← hothers] at tail
      obtain ⟨behind, rfl, hnext⟩ := ih tail
      exact ⟨behind, by rw [nodesSource, List.append_assoc], hnext⟩

section Content

variable {levels : Nat}

/-- Content is separated, as each of its nodes was read where the one before it ended. -/
theorem separated_of_readContent :
    ∀ (steps : Nat) (left : Text) (taken : Taken Content), left.length ≤ steps →
      readContent (readers levels) opened steps left = .ok taken →
        Separated left taken.value.nodes := by
  intro steps
  induction steps with
  | zero =>
    intro left taken _ h
    cases h
    exact .nil
  | succ steps ih =>
    intro left taken hlength h
    rcases readContent_cases hlength h with ⟨-, rfl⟩ | ⟨inside, -, heq⟩ | ⟨-, heq⟩ |
      ⟨node, rest, content, steps', left_ne, hsteps, hitem, hcontent, heq⟩
    · exact .nil
    · rw [heq]
      exact .nil
    · rw [heq]
      exact .nil
    · cases hsteps
      rw [heq]
      have hread : Reads left node rest := readItem_read (readers_faithful levels) left_ne hitem
      have hshort := hread.length_lt
      have htail := ih rest _ (by omega) hcontent
      rcases readContent_cases (by omega) hcontent with ⟨-, heq⟩ | ⟨inside, -, heq⟩ | ⟨-, heq⟩ |
        ⟨next, rest', content', _, rest_ne, -, hnext, -, heq⟩
      · obtain rfl : content = _ := congrArg Taken.value heq
        exact .single
      · obtain rfl : content = _ := heq
        exact .single
      · obtain rfl : content = _ := heq
        exact .single
      · -- the next node was read where this one ended
        obtain rfl : content = _ := heq
        rw [hread.eq_append]
        refine .cons (fun hnode => ?_) htail
        have hends := (run_of_isText (readers_local levels) hitem hnode).2
        exact isText_iff_opensNumeral (readers_local levels) (hends.resolve_left rest_ne) hnext

theorem separated_of_behind {opening : OpenTag} {behind : Text} {children : List Node}
    {closing : Option Text}
    (h : Behind (readers levels) opened opening behind children closing rest) :
    Separated behind children := by
  cases h with
  | nothing => exact .nil
  | @raw _ raw =>
    split
    · exact .nil
    · exact .single
  | content _ _ call => exact separated_of_readContent _ _ _ (Nat.le_refl _) call

theorem separated_of_fragment {body : Text} {children : List Node} {closing : Option Text}
    (h : readTag (readers levels) opened (.char '<' :: .char '>' :: body) =
      .ok ⟨.fragment children closing, rest⟩) : Separated body children := by
  rcases readTag_cases h with ⟨inside, content, hbody, heq, hcontent⟩ |
    ⟨_, _, _, _, -, -, -, heq⟩
  · cases hbody
    cases heq
    exact separated_of_readContent _ _ _ (Nat.le_refl _) hcontent
  · cases heq

theorem separated_of_tag {opening : OpenTag} {body : Text} {children : List Node}
    {closing : Option Text}
    (h : readTag (readers levels) opened (opening.source ++ body) =
      .ok ⟨.tag opening children closing, rest⟩) : Separated body children := by
  obtain ⟨t, ht⟩ : ∃ t, opening.source ++ body = .char '<' :: t := ⟨_, rfl⟩
  rw [ht] at h
  rcases readTag_cases h with ⟨_, _, -, heq, -⟩ |
    ⟨opening', behind, children', closing', -, hopening, hbehind, heq⟩
  · cases heq
  · cases heq
    have hsource := readOpenTag_eq_append (readers_faithful levels) hopening
    rw [← ht] at hsource
    rw [List.append_cancel_left hsource]
    exact separated_of_behind hbehind

end Content

theorem separated_of_frontNodes {blanks value : Text} {content : List Node}
    (hvalue : opensNumeral (value ++ nodesSource content) = false)
    (h : Separated (nodesSource content) content) :
    Separated (blanks ++ (value ++ nodesSource content)) (frontNodes blanks value ++ content) := by
  have hfront : Separated ((Node.frontmatter value).source ++ nodesSource content)
      (.frontmatter value :: content) := .cons_of_not_isText rfl h
  unfold frontNodes
  split
  · next hempty =>
    rw [List.isEmpty_iff.1 hempty]
    exact hfront
  · have parted : (Node.text blanks).isText = true →
        ((Node.frontmatter value).isText = true ↔
          opensNumeral (value ++ nodesSource content) = true) :=
      fun _ => iff_of_false Bool.false_ne_true (Bool.eq_false_iff.1 hvalue)
    exact .cons parted hfront

theorem separated_of_readPage {page : Text} {nodes : List Node} (h : readPage page = .ok nodes) :
    Separated page nodes := by
  obtain ⟨front, content, hpage, rfl⟩ := exists_readsPage h
  have hcontent := separated_of_readContent _ _ _ (Nat.le_refl _) hpage.content
  rcases readFrontmatter_cases hpage.front with
    ⟨-, heq⟩ | ⟨blanks, fence, code, fenced, hsource, heq⟩
  · cases heq
    exact hcontent
  · obtain rfl : front = _ := heq
    rw [hsource, ← List.append_assoc fence]
    refine separated_of_frontNodes ?_ hcontent
    -- frontmatter starts with the hyphens of its fence
    obtain ⟨-, ⟨line, ending, ⟨blanks', -, rfl⟩, rfl, -⟩, -⟩ := fenced
    rfl

end VisibleText.Markup

namespace VisibleText.Document

open VisibleText.Markup (Reads ReadsAll ReadsPieces Separated endsText nodesSource opensNumeral
  readItem readPage readers)

/-! ## Siblings of a document -/

/-- Whether a node is an element, a component or a fragment: what holds content of the page. -/
def Node.holdsContent : Node → Bool
  | .tag _ _ => true
  | .fragment _ _ => true
  | _ => false

/-- The nodes that stand side by side in a document: those of the document itself, and those of
every element, component and fragment in it. -/
def siblings (d : Document) : List (List Node) :=
  d.children :: (d.nodes.filter Node.holdsContent).map Node.children

/-- A node is what a reader found somewhere on the page. -/
def IsRead (page : Text) (x : Node) : Prop :=
  ∃ (before left rest : Text) (node : Markup.Node),
    page = before ++ left ∧ Reads left node rest ∧ x = nodeAt before.width node

theorem walk_nodeAt_of_isPlain {node : Markup.Node} (plain : node.isPlain = true)
    (position : Nat) : (nodeAt position node).walk = [nodeAt position node] := by
  cases node with
  | text | comment | doctype | frontmatter => rfl
  | expression | tag | fragment => cases plain

mutual

/-- Whatever is in a node that was read was read itself. -/
theorem isRead_of_mem_walk {page before left rest : Text} {node : Markup.Node} {x : Node}
    (hread : Reads left node rest) (hpage : page = before ++ left)
    (hx : x ∈ (nodeAt before.width node).walk) : IsRead page x := by
  match hread with
  | .plain call plain left_eq source_ne =>
    rw [walk_nodeAt_of_isPlain plain] at hx
    exact ⟨_, _, _, _, hpage, .plain call plain left_eq source_ne, List.mem_singleton.1 hx⟩
  | .front earlier later call plain source_ne =>
    rw [walk_nodeAt_of_isPlain plain] at hx
    exact ⟨_, _, _, _, hpage, .front earlier later call plain source_ne, List.mem_singleton.1 hx⟩
  | .raw call raw_ne =>
    exact ⟨_, _, _, _, hpage, .raw call raw_ne, List.mem_singleton.1 hx⟩
  | .expression call inside =>
    rcases List.mem_cons.1 hx with hx | hx
    · exact ⟨_, _, _, _, hpage, .expression call inside, hx⟩
    · refine isRead_of_mem_piecesAt inside (hpage.trans (List.append_cons before _ _)) ?_
      rw [Text.width_append]
      exact hx
  | .fragment call inside =>
    rcases List.mem_cons.1 hx with hx | hx
    · exact ⟨_, _, _, _, hpage, .fragment call inside, hx⟩
    · refine isRead_of_mem_nodesAt inside
        (hpage.trans (List.append_assoc before (VisibleText.text "<>") _).symm) ?_
      rw [Text.width_append]
      exact hx
  | .tag call inside =>
    rcases List.mem_cons.1 hx with hx | hx
    · exact ⟨_, _, _, _, hpage, .tag call inside, hx⟩
    · refine isRead_of_mem_nodesAt inside (hpage.trans (List.append_assoc before _ _).symm) ?_
      rw [Text.width_append]
      exact hx

theorem isRead_of_mem_nodesAt {page before left rest : Text} {nodes : List Markup.Node} {x : Node}
    (hread : ReadsAll left nodes rest) (hpage : page = before ++ left)
    (hx : x ∈ walkAll (nodesAt before.width nodes)) : IsRead page x := by
  match hread with
  | .nil => cases hx
  | .cons head tail =>
    rcases List.mem_append.1 hx with hx | hx
    · exact isRead_of_mem_walk head hpage hx
    · rw [head.eq_append, ← List.append_assoc] at hpage
      rw [← Text.width_append] at hx
      exact isRead_of_mem_nodesAt tail hpage hx

theorem isRead_of_mem_piecesAt {page before left rest : Text} {pieces : List Markup.Piece}
    {x : Node} (hread : ReadsPieces left pieces rest) (hpage : page = before ++ left)
    (hx : x ∈ walkAll (piecesAt before.width pieces)) : IsRead page x := by
  match hread with
  | .nil => cases hx
  | .code tail =>
    rw [← List.append_assoc] at hpage
    rw [piecesAt, ← Text.width_append] at hx
    exact isRead_of_mem_piecesAt tail hpage hx
  | .markup head tail =>
    rcases List.mem_append.1 hx with hx | hx
    · exact isRead_of_mem_walk head hpage hx
    · rw [head.eq_append, ← List.append_assoc] at hpage
      rw [← Text.width_append] at hx
      exact isRead_of_mem_piecesAt tail hpage hx

end

/-- Nodes are laid out from somewhere on the page, where runs of text are neighbours only before
a numeral. -/
def AreSeparated (page : Text) (siblings : List Node) : Prop :=
  ∃ (before left : Text) (nodes : List Markup.Node),
    page = before ++ left ∧ Separated left nodes ∧ siblings = nodesAt before.width nodes

theorem IsRead.areSeparated {page : Text} {x : Node} (h : IsRead page x)
    (hx : x.holdsContent = true) : AreSeparated page x.children := by
  obtain ⟨before, left, rest, node, hpage, hread, rfl⟩ := h
  cases hread with
  | plain call plain | front earlier later call plain =>
    cases node with
    | text | comment | doctype | frontmatter => cases hx
    | expression | tag | fragment => cases plain
  | raw => cases hx
  | expression => cases hx
  | fragment call inside =>
    refine ⟨_, _, _, hpage.trans (List.append_assoc before (VisibleText.text "<>") _).symm,
      Markup.separated_of_fragment call, ?_⟩
    rw [Text.width_append]
    rfl
  | tag call inside =>
    refine ⟨_, _, _, hpage.trans (List.append_assoc before _ _).symm,
      Markup.separated_of_tag call, ?_⟩
    rw [Text.width_append]
    rfl

theorem areSeparated_of_parse {page : Text} {d : Document} (h : Document.parse page = .ok d)
    {siblings : List Node} (hmem : siblings ∈ d.siblings) : AreSeparated page siblings := by
  unfold Document.parse Markup.nodesOf at h
  cases hread : readPage page with
  | error failure =>
    rw [hread] at h
    cases h
  | ok nodes =>
    rw [hread] at h
    cases h
    have hpage : page = [] ++ page := (List.nil_append page).symm
    rcases List.mem_cons.1 hmem with rfl | hmem
    · exact ⟨[], page, nodes, hpage, Markup.separated_of_readPage hread, rfl⟩
    · obtain ⟨x, hx, rfl⟩ := List.mem_map.1 hmem
      obtain ⟨hx, hcontent⟩ := List.mem_filter.1 hx
      exact (isRead_of_mem_nodesAt (Markup.readPage_reads hread) hpage hx).areSeparated hcontent

theorem isText_nodeAt (position : Nat) (node : Markup.Node) :
    Field.isText (nodeAt position node) = node.isText := by
  cases node with
  | text | comment | doctype | frontmatter | expression | tag | fragment => rfl

/-- A text that is followed by a node is laid out from a run that is followed by one. -/
theorem exists_of_nodesAt_eq {start position : Nat} {nodes : List Markup.Node}
    {front back : List Node} {value : Text} {next : Node}
    (h : nodesAt start nodes = front ++ .text value position :: next :: back) :
    ∃ front' next' back', nodes = front' ++ .text value :: next' :: back' ∧
      position = start + (nodesSource front').width ∧
      Field.isText next = next'.isText := by
  induction front generalizing start nodes with
  | nil =>
    match nodes with
    | [] => cases h
    | [_] => exact nomatch (List.cons.inj h).2
    | node :: next' :: back' =>
      cases node with
      | text value' =>
        cases h
        exact ⟨[], next', back', rfl, rfl, isText_nodeAt _ _⟩
      | comment | doctype | frontmatter | expression | tag | fragment => cases h
  | cons first front ih =>
    cases nodes with
    | nil => cases h
    | cons node nodes =>
      rw [nodesAt, List.cons_append, List.cons.injEq] at h
      obtain ⟨front', next', back', rfl, rfl, hnext⟩ := ih h.2
      refine ⟨node :: front', next', back', rfl, ?_, hnext⟩
      rw [nodesSource, Text.width_append, Nat.add_assoc]

theorem AreSeparated.exists_behind {page : Text} {front back : List Node} {value : Text}
    {position : Nat} {next : Node}
    (h : AreSeparated page (front ++ .text value position :: next :: back)) :
    ∃ before behind, page = before ++ (value ++ behind) ∧ before.width = position ∧
      (Field.isText next = true ↔ opensNumeral behind = true) := by
  obtain ⟨before, left, nodes, hpage, hseparated, hnodes⟩ := h
  obtain ⟨front', next', back', rfl, rfl, hnext⟩ := exists_of_nodesAt_eq hnodes.symm
  obtain ⟨behind, rfl, hiff⟩ := hseparated.exists_behind
  refine ⟨before ++ nodesSource front', behind, ?_, Text.width_append _ _, ?_⟩
  · rw [hpage, List.append_assoc]
  · rw [hnext, hiff]

/-! ## Runs are maximal but for numerals -/

/-- A run of text is followed by another one just where an angle bracket stands before a numeral
that is no letter, in the document and in every element, component and fragment of it; and where
the scan for the end of a run stops, the reader of content reads text just in that case. -/
theorem neighbours_isText_iff {page : Text} {d : Document} (h : Document.parse page = .ok d) :
    (∀ siblings ∈ d.siblings, ∀ front value position next back,
      siblings = front ++ .text value position :: next :: back →
        ∃ before behind, page = before ++ (value ++ behind) ∧ before.width = position ∧
          (Field.isText next = true ↔ opensNumeral behind = true)) ∧
    ∀ levels opened left node rest, endsText left = true →
      readItem (readers levels) opened left = .ok ⟨.node node, rest⟩ →
        (node.isText = true ↔ opensNumeral left = true) := by
  constructor
  · rintro siblings hmem front value position next back rfl
    exact (areSeparated_of_parse h hmem).exists_behind
  · intro levels opened left node rest hends hitem
    exact Markup.isText_iff_opensNumeral (Markup.readers_local levels) hends hitem

/-- A run that an angle bracket before a numeral ends, and one that a tag ends. -/
theorem neighbours_isText_iff_of_numeral : ∃ (page : Text) (d : Document),
    page = text "a<²<b>c</b>" ∧ Document.parse page = .ok d ∧
      d.children.map Field.isText = [true, true, false] ∧
      (∀ siblings ∈ d.siblings, ∀ front value position next back,
        siblings = front ++ .text value position :: next :: back →
          ∃ before behind, page = before ++ (value ++ behind) ∧ before.width = position ∧
            (Field.isText next = true ↔ opensNumeral behind = true)) ∧
      ∀ levels opened left node rest, endsText left = true →
        readItem (readers levels) opened left = .ok ⟨.node node, rest⟩ →
          (node.isText = true ↔ opensNumeral left = true) := by
  have hrun : ((Document.parse (text "a<²<b>c</b>")).map
      fun d => d.children.map Field.isText).toOption = some [true, true, false] := by
    decide +kernel
  obtain ⟨d, hparse, htexts⟩ := Markup.exists_of_map_eq_ok (Markup.eq_ok_of_toOption hrun)
  exact ⟨_, d, rfl, hparse, htexts, neighbours_isText_iff hparse⟩

/-- Runs of text are not maximal: an angle bracket before a numeral opens no markup, and still
the text before it and the text from it on are two runs. -/
theorem not_forall_runs_maximal :
    ¬ ∀ (page : Text) (d : Document), Document.parse page = .ok d → ∀ siblings ∈ d.siblings,
      siblings.IsChain fun first second =>
        ¬(Field.isText first = true ∧ Field.isText second = true) := by
  intro hall
  have hrun : ((Document.parse (text "a<²")).map
      fun d => d.children.map Field.isText).toOption = some [true, true] := by
    decide +kernel
  obtain ⟨d, hparse, htexts⟩ := Markup.exists_of_map_eq_ok (Markup.eq_ok_of_toOption hrun)
  have hchain := hall _ d hparse d.children (.head _)
  have hflags : (d.children.map Field.isText).IsChain
      fun first second => ¬(first = true ∧ second = true) := ((List.isChain_map _)).2 hchain
  rw [htexts] at hflags
  exact absurd hflags (by decide)

end VisibleText.Document
