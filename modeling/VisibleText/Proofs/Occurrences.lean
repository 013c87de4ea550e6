import VisibleText.Proofs.Termination

/-!
# Where the tags of a page were read

Every tag of a page is what some call of a reader came back with, whether it stands in a tag or in
an expression (`exists_tag_of_readPageWithin`), and its closing tag was met where content was read
(`Reaches.meets_of_tag`). What holds of all calls therefore holds of all tags of a page.
-/

set_option autoImplicit false

namespace VisibleText.Markup

/-! ## Nodes in nodes -/

/-- The markup among the pieces of an expression. -/
def markupOf : List Piece → List Node
  | [] => []
  | .code _ :: pieces => markupOf pieces
  | .markup node :: pieces => node :: markupOf pieces

/-- The nodes in a node. -/
def Node.inside : Node → List Node
  | .tag _ children _ | .fragment children _ => children
  | .expression pieces => markupOf pieces
  | _ => []

/-- What the closing tag of a node holds, if the node has one. -/
def Node.closing? : Node → Option Text
  | .tag _ _ closing | .fragment _ closing => closing
  | _ => none

/-- Whether the content of a node is raw. -/
def Node.isRaw : Node → Bool
  | .tag opening _ _ => Markup.isRaw opening.name
  | _ => false

/-- A node stands among some nodes, or in one of them. -/
inductive Among (found : Node) : List Node → Prop
  | here {nodes : List Node} : Among found (found :: nodes)
  | inside {first : Node} {nodes : List Node} (h : Among found first.inside) :
      Among found (first :: nodes)
  | behind {first : Node} {nodes : List Node} (h : Among found nodes) :
      Among found (first :: nodes)

theorem markupOf_append (front back : List Piece) :
    markupOf (front ++ back) = markupOf front ++ markupOf back := by
  induction front with
  | nil => rfl
  | cons piece front ih =>
    cases piece with
    | code => exact ih
    | markup node => exact congrArg (node :: ·) ih

theorem markupOf_codePiece (before : Text) : markupOf (codePiece before) = [] := by
  unfold codePiece
  split <;> rfl

variable {found : Node}

theorem Among.append {front back : List Node} (h : Among found (front ++ back)) :
    Among found front ∨ Among found back := by
  induction front with
  | nil => exact .inr h
  | cons first front ih =>
    cases h with
    | here => exact .inl .here
    | inside h => exact .inl (.inside h)
    | behind h => exact (ih h).imp_left .behind

theorem Among.singleton {node : Node} (h : Among found [node]) :
    found = node ∨ Among found node.inside := by
  cases h with
  | here => exact .inl rfl
  | inside h => exact .inr h
  | behind h => cases h

theorem Among.of_not_isTag {node : Node} (h : Among found [node]) (isTag : found.isTag = true)
    (leaf : node.isTag = false) : Among found node.inside := by
  rcases h.singleton with rfl | h
  · cases leaf.symm.trans isTag
  · exact h

/-! ## What calls give -/

/-- A call comes back with some nodes. The nodes in the code of an attribute and of a string are
not kept. -/
def Call.Gives (nodes : List Node) : Call → Prop
  | content levels opened left => ∃ closing rest,
      readContent (readers levels) opened left.length left = .ok ⟨⟨nodes, closing⟩, rest⟩
  | tag levels opened left => ∃ node rest,
      nodes = [node] ∧ (readers levels).tag opened left = .ok ⟨node, rest⟩
  | expression levels left => ∃ pieces rest,
      nodes = markupOf pieces ∧ (readers levels).expression left = .ok ⟨pieces, rest⟩
  | code levels start depth before left => ∃ pieces rest,
      nodes = markupOf pieces ∧
        readCode (readers levels) start left.length depth before left = .ok ⟨pieces, rest⟩
  | parts .. | string .. => nodes = []

/-- A call makes a call that gives a node. -/
def Call.Passes (frames : List Frame) (found : Node) (c : Call) : Prop :=
  ∃ frames' c' nodes, Makes frames c frames' c' ∧ c'.Gives nodes ∧ Among found nodes

section Passing

variable {frames : List Frame} {levels : Nat} {opened : List Text} {left rest : Text}

theorem passes_of_readItem {node : Node}
    (h : readItem (readers levels) opened left = .ok ⟨.node node, rest⟩)
    (isTag : found.isTag = true) (among : Among found [node]) :
    (Call.content levels opened left).Passes frames found := by
  rcases readItem_node_cases h with ⟨value, rfl, -⟩ | ⟨value, rfl, -, -⟩ | ⟨opens, htag⟩ |
    ⟨pieces, rfl, hbrace, hcode⟩ | ⟨run, rfl, -⟩
  · cases among.of_not_isTag isTag rfl
  · cases among.of_not_isTag isTag rfl
  · exact ⟨_, _, [node], .tagInContent opens, ⟨node, rest, rfl, htag⟩, among⟩
  · obtain ⟨code, rfl⟩ := List.head?_eq_some_iff.1 hbrace
    have hinside := among.of_not_isTag isTag rfl
    exact ⟨_, _, _, .expressionInContent, ⟨pieces, rest, rfl, hcode⟩, hinside⟩
  · cases among.of_not_isTag isTag rfl

theorem passes_of_content {nodes : List Node}
    (gives : (Call.content levels opened left).Gives nodes) (isTag : found.isTag = true)
    (among : Among found nodes) : (Call.content levels opened left).Passes frames found := by
  obtain ⟨closing, rest, h⟩ := gives
  rcases readContent_cases (Nat.le_refl _) h with ⟨-, heq⟩ | ⟨inside, -, heq⟩ | ⟨-, heq⟩ |
    ⟨node, behind, content, steps, left_ne, hsteps, hitem, hcontent, heq⟩
  · cases heq
    cases among
  · cases heq
    cases among
  · cases heq
    cases among
  · cases heq
    rcases Among.append (show Among found ([node] ++ content.nodes) from among) with hnode | hbehind
    · exact passes_of_readItem hitem isTag hnode
    · -- what stands behind the node is read with the steps that it takes itself
      have hlength : behind.length < left.length := length_lt_of_readItem left_ne hitem
      rw [readContent_steps opened steps behind (by omega) behind.length (Nat.le_refl _)]
        at hcontent
      exact ⟨_, _, _, .item left_ne hitem, ⟨_, _, hcontent⟩, hbehind⟩

/-- A tag that is read is a fragment, or has a name and is read as what is behind its opening tag. -/
theorem readTag_cases {inner : Readers} {body : Text} {node : Node}
    (h : readTag inner opened (.char '<' :: body) = .ok ⟨node, rest⟩) :
    (∃ inside content, body = .char '>' :: inside ∧
      node = .fragment content.nodes content.closing ∧
        readContent inner ([] :: opened) inside.length inside = .ok ⟨content, rest⟩) ∨
    (∃ opening behind children closing, (text "<>").isPrefixOf (.char '<' :: body) = false ∧
      readOpenTag inner (.char '<' :: body) = .ok ⟨opening, behind⟩ ∧
        Behind inner opened opening behind children closing rest ∧
          node = .tag opening children closing) := by
  cases hfragment : (text "<>").isPrefixOf (.char '<' :: body) with
  | true =>
    obtain ⟨inside, rfl⟩ := eq_cons_of_fragment hfragment
    obtain ⟨⟨content, behind⟩, hcontent, heq⟩ :=
      exists_of_map_eq_ok ((readTag_of_fragment inside).symm.trans h)
    cases heq
    exact .inl ⟨inside, content, rfl, rfl, hcontent⟩
  | false =>
    obtain ⟨opening, behind, children, closing, hopening, hbehind, rfl⟩ :=
      (readTag_eq_ok_iff hfragment).1 h
    exact .inr ⟨opening, behind, children, closing, rfl, hopening, hbehind, rfl⟩

theorem passes_of_tag {node : Node} (opens : opensTag left = true)
    (returns : (readers levels).tag opened left = .ok ⟨node, rest⟩) (isTag : found.isTag = true)
    (among : Among found node.inside) : (Call.tag levels opened left).Passes frames found := by
  obtain ⟨body, rfl⟩ := eq_cons_of_opensTag opens
  cases levels with
  | zero => cases returns
  | succ levels =>
    rcases readTag_cases returns with ⟨inside, content, rfl, rfl, hcontent⟩ |
      ⟨opening, behind, children, closing, named, hopening, hbehind, rfl⟩
    · exact ⟨_, _, _, .fragment, ⟨_, _, hcontent⟩, among⟩
    · cases hbehind with
      | nothing => cases among
      | @raw raw =>
        -- raw content is text
        change Among found (if raw.isEmpty then [] else [.text raw]) at among
        split at among
        · cases among
        · cases among.of_not_isTag isTag rfl
      | content opens kind call =>
        exact ⟨_, _, _, .children named hopening opens kind, ⟨_, _, call⟩, among⟩

/-- The markup that a step of reading code completes is a tag that it has read. -/
theorem markupOf_readCodeStep {inner : Readers} (hinner : inner.Faithful) {start before : Text}
    {depth : Nat} {pieces : List Piece} {state : Option (Nat × Text)}
    (h : readCodeStep inner start depth before left = .ok ⟨(pieces, state), rest⟩) :
    markupOf pieces = [] ∨ (opensTag left = true ∧ tagMayFollow before = true ∧
      ∃ node, markupOf pieces = [node] ∧ inner.tag [] left = .ok ⟨node, rest⟩) := by
  rcases readCodeStep_cases hinner h with ⟨seen, _, depth', -, -, heq⟩ | ⟨_, -, heq⟩ |
    ⟨node, _, opens, allowed, hnode, heq⟩
  · cases heq
    exact .inl rfl
  · cases heq
    exact .inl (markupOf_codePiece before)
  · cases heq
    refine .inr ⟨opens, allowed, node, ?_, hnode⟩
    rw [markupOf_append, markupOf_codePiece]
    rfl

theorem passes_of_code {start before : Text} {depth : Nat} {nodes : List Node}
    (gives : (Call.code levels start depth before left).Gives nodes)
    (among : Among found nodes) :
    (Call.code levels start depth before left).Passes frames found := by
  obtain ⟨pieces, rest, rfl, h⟩ := gives
  rw [readCode_eq (readers_faithful levels)] at h
  obtain ⟨⟨⟨taken, state⟩, behind⟩, hstep, h⟩ := exists_of_bind_eq_ok h
  -- a tag that the step itself has read
  have hpasses (among : Among found (markupOf taken)) :
      (Call.code levels start depth before left).Passes frames found := by
    rcases markupOf_readCodeStep (readers_faithful levels) hstep with hnone |
      ⟨opens, allowed, node, hnode, htag⟩
    · rw [hnone] at among
      cases among
    · rw [hnode] at among
      exact ⟨_, _, [node], .tagInCode opens allowed, ⟨node, behind, rfl, htag⟩, among⟩
  cases state with
  | none =>
    cases h
    exact hpasses among
  | some state =>
    obtain ⟨more, hmore, hvalue⟩ := exists_of_prepend_eq_ok h
    obtain rfl : pieces = taken ++ more := hvalue
    rw [markupOf_append] at among
    rcases among.append with htaken | hbehind
    · exact hpasses htaken
    · exact ⟨_, _, _, .codeStep hstep, ⟨more, rest, rfl, hmore⟩, hbehind⟩

/-- A tag that a call gives is what the call has read as a tag, or is given by a call that it
makes. -/
theorem Call.Placed.passes {page : Text} {c : Call} {nodes : List Node} (h : c.Placed page)
    (gives : c.Gives nodes) (isTag : found.isTag = true) (among : Among found nodes)
    (frames : List Frame) :
    (∃ levels opened left rest, c = .tag levels opened left ∧
      (readers levels).tag opened left = .ok ⟨found, rest⟩) ∨ c.Passes frames found := by
  cases c with
  | content => exact .inr (passes_of_content gives isTag among)
  | tag levels opened left =>
    obtain ⟨node, rest, rfl, returns⟩ := gives
    rcases among.singleton with rfl | among
    · exact .inl ⟨levels, opened, left, rest, rfl, returns⟩
    · exact .inr (passes_of_tag h.2 returns isTag among)
  | expression levels left =>
    obtain ⟨pieces, rest, rfl, hread⟩ := gives
    obtain ⟨code, rfl⟩ := List.head?_eq_some_iff.1 h.2
    cases levels with
    | zero => cases hread
    | succ levels =>
      have hcode := (readExpression_eq code).symm.trans hread
      exact .inr ⟨_, _, _, .code, ⟨pieces, rest, rfl, hcode⟩, among⟩
  | code => exact .inr (passes_of_code gives among)
  | parts | string =>
    cases gives
    cases among

end Passing

/-! ## Tags of a page -/

variable {levels : Nat} {page : Text}

/-- Every tag that a call gives was read by a call. -/
theorem Reaches.exists_tag (isTag : found.isTag = true) (c : Call) :
    ∀ frames nodes, Reaches levels page frames c → c.Gives nodes → Among found nodes →
      ∃ frames' levels' opened left rest, Reaches levels page frames' (.tag levels' opened left) ∧
        (readers levels').tag opened left = .ok ⟨found, rest⟩ := by
  -- by induction on the calls that a call makes, down to the one that has read the tag
  induction c using makes_wellFounded.induction with
  | h c ih =>
    intro frames nodes reached gives among
    rcases reached.placed.passes gives isTag among frames with
      ⟨levels', opened, left, rest, rfl, returns⟩ | ⟨frames', c', nodes', makes, gives', among'⟩
    · exact ⟨frames, levels', opened, left, rest, reached, returns⟩
    · exact ih c' ⟨frames, frames', makes⟩ frames' nodes' (reached.call makes) gives' among'

/-- There is no tag in what stands before the content of a page. -/
theorem not_among_of_readFrontmatter {front : List Node} {rest : Text}
    (h : readFrontmatter page = .ok ⟨front, rest⟩) (isTag : found.isTag = true) :
    ¬ Among found front := by
  intro among
  unfold readFrontmatter at h
  generalize page.span CodePoint.isBlank = cut at h
  obtain ⟨blanks, behind⟩ := cut
  simp only at h
  split at h
  · cases h
    cases among
  · split at h
    · cases h
    · cases h
      rcases among.append with hblanks | hfence
      · split at hblanks
        · cases hblanks
        · cases hblanks.of_not_isTag isTag rfl
      · cases hfence.of_not_isTag isTag rfl

/-- Every tag of a page was read by a call. -/
theorem exists_tag_of_readPageWithin {nodes : List Node}
    (h : readPageWithin levels page = .ok nodes) (isTag : found.isTag = true)
    (among : Among found nodes) :
    ∃ frames levels' opened left rest, Reaches levels page frames (.tag levels' opened left) ∧
      (readers levels').tag opened left = .ok ⟨found, rest⟩ := by
  obtain ⟨⟨front, rest⟩, hfront, h⟩ := exists_of_bind_eq_ok h
  obtain ⟨⟨⟨nodes', closing⟩, behind⟩, hcontent, h⟩ := exists_of_bind_eq_ok h
  cases h
  rcases among.append with hamong | hamong
  · exact absurd hamong (not_among_of_readFrontmatter hfront isTag)
  · exact Reaches.exists_tag isTag _ [] nodes' (.start hfront) ⟨closing, behind, hcontent⟩ hamong

/-- Content that comes back with a closing tag has met it. -/
theorem Reaches.meets {frames : List Frame} {levels' : Nat} {opened : List Text}
    {inside rest : Text} :
    ∀ (steps : Nat) (left : Text) (nodes : List Node), left.length ≤ steps →
      Reaches levels page frames (.content levels' opened left) →
        readContent (readers levels') opened steps left = .ok ⟨⟨nodes, some inside⟩, rest⟩ →
          CodePoint.char '>' ∉ inside ∧ opened.head? = some inside.trim ∧
            Reaches levels page frames
              (.content levels' opened (closingSource (some inside) ++ rest)) := by
  intro steps
  induction steps with
  | zero =>
    intro left nodes _ _ h
    cases h
  | succ steps ih =>
    intro left nodes hlength reached h
    rcases readContent_cases hlength h with ⟨-, ⟨⟩⟩ | ⟨found, hitem, heq⟩ | ⟨-, ⟨⟩⟩ |
      ⟨node, behind, content, steps', left_ne, hsteps, hitem, hcontent, heq⟩
    · cases heq
      obtain ⟨rfl, bracket, hhead⟩ := of_readItem_closing hitem
      exact ⟨bracket, hhead, reached⟩
    · -- a node stands before the closing tag
      cases hsteps
      obtain ⟨nodes', closing⟩ := content
      cases heq
      have hbehind : behind.length < left.length := length_lt_of_readItem left_ne hitem
      exact ih behind nodes' (by omega) (reached.call (.item left_ne hitem)) hcontent

/-- A tag that comes back with a closing tag has met it in its content, unless that is raw. -/
theorem Reaches.meets_of_tag {frames : List Frame} {levels' : Nat} {opened : List Text}
    {left inside rest : Text} {node : Node}
    (h : Reaches levels page frames (.tag levels' opened left))
    (returns : (readers levels').tag opened left = .ok ⟨node, rest⟩)
    (closing : node.closing? = some inside) (markup : node.isRaw = false) :
    ∃ frames' levels'' opened', CodePoint.char '>' ∉ inside ∧
      opened'.head? = some inside.trim ∧ Reaches levels page frames'
        (.content levels'' opened' (closingSource (some inside) ++ rest)) := by
  obtain ⟨body, rfl⟩ := eq_cons_of_opensTag h.placed.2
  cases levels' with
  | zero => cases returns
  | succ levels' =>
    rcases readTag_cases returns with ⟨body, ⟨nodes, closing'⟩, rfl, rfl, hcontent⟩ |
      ⟨opening, behind, children, closing', named, hopening, hbehind, rfl⟩
    · obtain rfl : closing' = some inside := closing
      exact ⟨_, _, _, Reaches.meets _ _ _ (Nat.le_refl _) (h.call .fragment) hcontent⟩
    · cases hbehind with
      | nothing => cases closing
      | raw _ kind => cases kind.symm.trans markup
      | @content _ content opens kind call =>
        obtain ⟨nodes, closing'⟩ := content
        obtain rfl : closing' = some inside := closing
        have reached := h.call (.children named hopening opens kind)
        exact ⟨_, _, _, Reaches.meets _ _ _ (Nat.le_refl _) reached call⟩

end VisibleText.Markup
