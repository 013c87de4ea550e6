import VisibleText.Proofs.Occurrences

/-!
# Closing tags and their scope

A closing tag closes the innermost tag of its name among the tags that are open around it, and with
it the tags that were opened in that one. Only tags that were opened since the innermost expression
began are looked at (`scope`): the readers are given the names of exactly these tags
(`Reaches.opened_eq_scope`). A closing tag of another name is a fault.

A tag that is closed with another one comes back with the closing tag unread. The reader of the
content around it, which is given the same closing tag, then comes back in its turn, until the tag
is reached whose name it holds (`Reaches.closes`).
-/

set_option autoImplicit false

namespace VisibleText.Markup

/-! ## Tags that are open -/

/-- The reader of a tag comes back with a node, and leaves a text. -/
def ActiveTag.Returns (t : ActiveTag) (node : Node) (rest : Text) : Prop :=
  (readers t.levels).tag t.opened t.start = .ok ⟨node, rest⟩

/-- The rest of the content of a tag decides what its reader comes back with. -/
def ActiveTag.EndsWith (t : ActiveTag) (levels : Nat) (opened : List Text) (left : Text) : Prop :=
  ∀ content rest, readContent (readers levels) opened left.length left = .ok ⟨content, rest⟩ →
    ∃ node, t.Returns node rest ∧ node.closing? = content.closing ∧
      (content.closing = none → node.isUnclosed = true)

theorem ActiveTag.EndsWith.of_item {t : ActiveTag} {levels : Nat} {opened : List Text}
    {left rest : Text} {node : Node} (h : t.EndsWith levels opened left) (left_ne : left ≠ [])
    (read : readItem (readers levels) opened left = .ok ⟨.node node, rest⟩) :
    t.EndsWith levels opened rest := by
  intro content rest' hcontent
  refine h ⟨node :: content.nodes, content.closing⟩ rest' ?_
  rw [readContent_of_item left_ne read, hcontent]
  rfl

theorem endsWith_of_fragment {levels : Nat} {opened : List Text} {body : Text} :
    ActiveTag.EndsWith ⟨levels + 1, opened, .char '<' :: .char '>' :: body, []⟩ levels
      ([] :: opened) body := by
  intro content rest hcontent
  refine ⟨.fragment content.nodes content.closing, ?_, rfl, fun hclosing => ?_⟩
  · exact readTag_fragment hcontent
  · rw [hclosing]
    rfl

theorem endsWith_of_children {levels : Nat} {opened : List Text} {left behind : Text}
    {opening : OpenTag} (named : (text "<>").isPrefixOf left = false)
    (read : readOpenTag (readers levels) left = .ok ⟨opening, behind⟩)
    (opens : opening.opensNothing = false) (kind : isRaw opening.name = false) :
    ActiveTag.EndsWith ⟨levels + 1, opened, left, opening.name⟩ levels (opening.name :: opened)
      behind := by
  intro content rest hcontent
  refine ⟨.tag opening content.nodes content.closing, ?_, rfl, fun hclosing => ?_⟩
  · refine (readTag_of_opening named read opens kind).trans ?_
    rw [hcontent]
    rfl
  · rw [hclosing, Node.isUnclosed, opens]
    rfl

variable {levels : Nat} {page : Text}

/-- Content is that of the page, or that of the innermost tag around it. -/
theorem Reaches.content_cases {frames : List Frame} {levels' : Nat} {opened : List Text}
    {left : Text} (h : Reaches levels page frames (.content levels' opened left)) :
    (frames = [] ∧ opened = []) ∨
    (∃ t outer, frames = .tag t :: outer ∧ opened = t.name :: t.opened ∧
      Reaches levels page outer (.tag t.levels t.opened t.start) ∧
        t.EndsWith levels' opened left) := by
  generalize hc : Call.content levels' opened left = c at h
  induction h generalizing left with
  | start =>
    cases hc
    exact .inl ⟨rfl, rfl⟩
  | call caller makes ih =>
    cases makes with
    | item left_ne read =>
      cases hc
      rcases ih rfl with htop | ⟨t, outer, rfl, rfl, reached, ends⟩
      · exact .inl htop
      · exact .inr ⟨t, outer, rfl, rfl, reached, ends.of_item left_ne read⟩
    | fragment =>
      cases hc
      exact .inr ⟨_, _, rfl, rfl, caller, endsWith_of_fragment⟩
    | children named read opens kind =>
      cases hc
      exact .inr ⟨_, _, rfl, rfl, caller, endsWith_of_children named read opens kind⟩
    | tagInContent | expressionInContent | attributes | part | attributeCode | valueCode | code
    | codeStep | tagInCode | string | stringStep | templateCode => cases hc

/-- Code stands in an expression. -/
theorem Reaches.code_frames {frames : List Frame} {levels' depth : Nat} {start before left : Text}
    (h : Reaches levels page frames (.code levels' start depth before left)) :
    ∃ outer, frames = .expression :: outer := by
  generalize hc : Call.code levels' start depth before left = c at h
  induction h generalizing depth before left with
  | start => cases hc
  | call caller makes ih =>
    cases makes with
    | code => exact ⟨_, rfl⟩
    | codeStep read =>
      cases hc
      exact ih rfl
    | item | fragment | children | tagInContent | expressionInContent | attributes | part
    | attributeCode | valueCode | tagInCode | string | stringStep | templateCode => cases hc

/-- A tag stands in content that has the same tags open, or in code, where none is open. -/
theorem Reaches.tag_cases {frames : List Frame} {levels' : Nat} {opened : List Text} {left : Text}
    (h : Reaches levels page frames (.tag levels' opened left)) :
    opensTag left = true ∧ (Reaches levels page frames (.content levels' opened left) ∨
      (opened = [] ∧ ∃ start depth before, tagMayFollow before = true ∧
        Reaches levels page frames (.code levels' start depth before left))) := by
  generalize hc : Call.tag levels' opened left = c at h
  cases h with
  | start => cases hc
  | call caller makes =>
    cases makes with
    | tagInContent opens =>
      cases hc
      exact ⟨opens, .inl caller⟩
    | tagInCode opens allowed =>
      cases hc
      exact ⟨opens, .inr ⟨rfl, _, _, _, allowed, caller⟩⟩
    | item | fragment | children | expressionInContent | attributes | part
    | attributeCode | valueCode | code | codeStep | string | stringStep | templateCode => cases hc

/-- The names that content is given are those of the tags that are open in its scope. -/
theorem Reaches.opened_eq_scope {frames : List Frame} {levels' : Nat} {opened : List Text}
    {left : Text} (h : Reaches levels page frames (.content levels' opened left)) :
    opened = scope frames := by
  induction frames generalizing levels' opened left with
  | nil =>
    rcases h.content_cases with ⟨-, rfl⟩ | ⟨t, outer, hframes, -⟩
    · rfl
    · cases hframes
  | cons frame frames ih =>
    rcases h.content_cases with ⟨hframes, -⟩ | ⟨t, outer, hframes, rfl, reached, -⟩
    · cases hframes
    · cases hframes
      rw [scope]
      rcases reached.tag_cases.2 with hcontent | ⟨hopened, start, depth, before, -, hcode⟩
      · rw [ih hcontent]
      · obtain ⟨outer, rfl⟩ := hcode.code_frames
        rw [hopened]
        rfl

theorem Reaches.tag_opened_eq_scope {frames : List Frame} {levels' : Nat} {opened : List Text}
    {left : Text} (h : Reaches levels page frames (.tag levels' opened left)) :
    opened = scope frames := by
  rcases h.tag_cases.2 with hcontent | ⟨rfl, start, depth, before, -, hcode⟩
  · exact hcontent.opened_eq_scope
  · obtain ⟨outer, rfl⟩ := hcode.code_frames
    rfl

/-! ## Closing tags -/

/-- Reading goes on behind a tag, in the content or in the code that it stands in. -/
def GoesOn (levels : Nat) (page : Text) (outer : List Frame) (t : ActiveTag) (rest : Text) : Prop :=
  Reaches levels page outer (.content t.levels t.opened rest) ∨
    ∃ start depth, Reaches levels page outer (.code t.levels start depth [] rest)

theorem goesOn_of_returns {outer : List Frame} {t : ActiveTag} {node : Node} {rest : Text}
    (reached : Reaches levels page outer (.tag t.levels t.opened t.start))
    (returns : t.Returns node rest) : GoesOn levels page outer t rest := by
  obtain ⟨opens, hcontent | ⟨hopened, start, depth, before, allowed, hcode⟩⟩ := reached.tag_cases
  · refine .inl (hcontent.call (.item ?_ (readItem_of_opensTag opens returns)))
    rintro hnil
    rw [hnil] at opens
    cases opens
  · rw [ActiveTag.Returns, hopened] at returns
    have hstep : readCodeStep (readers t.levels) start depth before t.start =
        .ok ⟨(codePiece before ++ [.markup node], some (depth, [])), rest⟩ := by
      rw [readCodeStep_of_opensTag opens allowed, returns]
      rfl
    exact .inr ⟨start, depth, hcode.call (.codeStep hstep)⟩

/-- A tag is closed together with the tag that a closing tag is for: it is left open, and the
closing tag is left to read. -/
def ActiveTag.LeftOpenBefore (t : ActiveTag) (left : Text) : Prop :=
  ∃ node, t.Returns node left ∧ node.isUnclosed = true

/-- A tag is closed by a closing tag, behind which `rest` is left. -/
def ActiveTag.ClosedBy (t : ActiveTag) (inside rest : Text) : Prop :=
  ∃ node, t.Returns node rest ∧ node.closing? = some inside

section Closing

variable {inside rest : Text}

theorem readContent_closing_of_head (levels : Nat) {opened : List Text}
    (bracket : CodePoint.char '>' ∉ inside) (hhead : opened.head? = some inside.trim)
    (rest : Text) :
    readContent (readers levels) opened (closingSource (some inside) ++ rest).length
      (closingSource (some inside) ++ rest) = .ok ⟨⟨[], some inside⟩, rest⟩ := by
  have left_ne : closingSource (some inside) ++ rest ≠ [] := List.cons_ne_nil _ _
  refine readContent_closing left_ne ?_
  exact (readItem_closing bracket rest).trans (if_pos hhead)

theorem readContent_closing_of_mem (levels : Nat) {opened : List Text}
    (bracket : CodePoint.char '>' ∉ inside) (hhead : opened.head? ≠ some inside.trim)
    (hmem : inside.trim ∈ opened) (rest : Text) :
    readContent (readers levels) opened (closingSource (some inside) ++ rest).length
      (closingSource (some inside) ++ rest) =
        .ok ⟨⟨[], none⟩, closingSource (some inside) ++ rest⟩ := by
  have left_ne : closingSource (some inside) ++ rest ≠ [] := List.cons_ne_nil _ _
  refine readContent_closingOuter left_ne ?_
  refine (readItem_closing bracket rest).trans ((if_neg hhead).trans (if_pos ?_))
  exact List.contains_iff_mem.2 hmem

/-- A closing tag of a name outside the scope is a fault of the page. -/
theorem Reaches.unexpected {frames : List Frame} {levels' : Nat} {opened : List Text}
    (reached : Reaches levels page frames
      (.content levels' opened (closingSource (some inside) ++ rest)))
    (bracket : CodePoint.char '>' ∉ inside) (hname : inside.trim ∉ scope frames) :
    readPageWithin levels page = .error
      (.fault (.unexpectedClosingTag inside.trim) (closingSource (some inside) ++ rest)) := by
  refine reached.fails (map_eq_error_iff.2 ?_)
  have hmem : inside.trim ∉ opened := by
    rw [reached.opened_eq_scope]
    exact hname
  have hhead : opened.head? ≠ some inside.trim := fun hhead => hmem (List.mem_of_mem_head? hhead)
  refine readContent_of_error (List.cons_ne_nil _ _) ?_
  refine (readItem_closing bracket rest).trans ((if_neg hhead).trans (if_neg ?_))
  exact fun hcontains => hmem (List.contains_iff_mem.1 hcontains)

/-- A closing tag closes the innermost tag of its name in its scope, and the tags in that one are
closed with it. -/
theorem Reaches.closes {frames : List Frame} {levels' : Nat} {opened : List Text}
    (reached : Reaches levels page frames
      (.content levels' opened (closingSource (some inside) ++ rest)))
    (bracket : CodePoint.char '>' ∉ inside) (hname : inside.trim ∈ scope frames) :
    ∃ (within : List ActiveTag) (t : ActiveTag) (outer : List Frame),
      frames = within.map Frame.tag ++ .tag t :: outer ∧
      t.name = inside.trim ∧ t.ClosedBy inside rest ∧ GoesOn levels page outer t rest ∧
        ∀ u ∈ within, u.name ≠ inside.trim ∧
          u.LeftOpenBefore (closingSource (some inside) ++ rest) := by
  -- by induction on the frames: the closing tag is passed on to the tag around
  induction frames generalizing levels' opened with
  | nil => cases hname
  | cons frame frames ih =>
    rcases reached.content_cases with ⟨hframes, -⟩ | ⟨t, outer, hframes, rfl, htag, ends⟩
    · cases hframes
    cases hframes
    by_cases ht : t.name = inside.trim
    · -- the tag of this name
      have hhead : (t.name :: t.opened).head? = some inside.trim := congrArg some ht
      have hcontent := readContent_closing_of_head levels' bracket hhead rest
      obtain ⟨node, returns, hclosing, -⟩ := ends _ _ hcontent
      exact ⟨[], t, frames, rfl, ht, ⟨node, returns, hclosing⟩, goesOn_of_returns htag returns,
        fun u hu => (nomatch hu)⟩
    · -- a tag of another name is left open, and the closing tag is met in the content around it
      have hname' : inside.trim ∈ scope frames := by
        rcases List.mem_cons.1 hname with heq | hmem
        · exact absurd heq.symm ht
        · exact hmem
      have hopened := htag.tag_opened_eq_scope
      have hhead : (t.name :: t.opened).head? ≠ some inside.trim :=
        fun hhead => ht (Option.some.inj hhead)
      have hcontent := readContent_closing_of_mem levels' bracket hhead
        (List.mem_cons_of_mem _ (hopened ▸ hname')) rest
      obtain ⟨node, returns, -, hunclosed⟩ := ends _ _ hcontent
      rcases goesOn_of_returns htag returns with haround | ⟨start, depth, hcode⟩
      · obtain ⟨within, t', outer, rfl, ht', closed, goes, others⟩ := ih haround hname'
        refine ⟨t :: within, t', outer, rfl, ht', closed, goes, ?_⟩
        intro u hu
        rcases List.mem_cons.1 hu with rfl | hu
        · exact ⟨ht, node, returns, hunclosed rfl⟩
        · exact others u hu
      · -- around code no name is in scope
        obtain ⟨outer, rfl⟩ := hcode.code_frames
        cases hname'

end Closing

/-- The names of open tags that a call is given. -/
def Call.opened? : Call → Option (List Text)
  | content _ opened _ | tag _ opened _ => some opened
  | _ => none

theorem Reaches.opened?_eq_scope {frames : List Frame} {c : Call} {opened : List Text}
    (h : Reaches levels page frames c) (hopened : c.opened? = some opened) :
    opened = scope frames := by
  cases c with
  | content levels' opened' left =>
    cases hopened
    exact h.opened_eq_scope
  | tag levels' opened' left =>
    cases hopened
    exact h.tag_opened_eq_scope
  | parts | expression | code | string => cases hopened

/-- The closing tags of the nodes of a page were met, unless they end raw content. -/
theorem exists_met_of_readPageWithin {nodes : List Node} {node : Node} {inside : Text}
    (h : readPageWithin levels page = .ok nodes) (among : Among node nodes)
    (closing : node.closing? = some inside) (markup : node.isRaw = false) :
    ∃ frames levels' opened rest, CodePoint.char '>' ∉ inside ∧ inside.trim ∈ scope frames ∧
      Reaches levels page frames
        (.content levels' opened (closingSource (some inside) ++ rest)) := by
  have isTag : node.isTag = true := by
    cases node with
    | tag | fragment => rfl
    | text | comment | doctype | frontmatter | expression => cases closing
  obtain ⟨frames, levels', opened, left, rest, reached, returns⟩ :=
    exists_tag_of_readPageWithin h isTag among
  obtain ⟨frames', levels'', opened', bracket, hhead, met⟩ :=
    reached.meets_of_tag returns closing markup
  refine ⟨frames', levels'', opened', rest, bracket, ?_, met⟩
  exact met.opened_eq_scope ▸ List.mem_of_mem_head? hhead

/-- A tag around which no name is in scope is left open only by the end of the page. -/
theorem Reaches.left_eq_nil {frames : List Frame} {levels' : Nat} {opened : List Text}
    {left rest : Text} {node : Node} (h : Reaches levels page frames (.tag levels' opened left))
    (hscope : scope frames = []) (returns : (readers levels').tag opened left = .ok ⟨node, rest⟩)
    (hunclosed : node.isUnclosed = true) : rest = [] := by
  rw [h.tag_opened_eq_scope, hscope] at returns
  cases levels' with
  | zero => cases returns
  | succ levels' => exact readTag_alone returns hunclosed

end VisibleText.Markup

namespace VisibleText

open VisibleText.Markup

/-- Closing tags are resolved by scope. Whatever has been read, the readers are given the names of
the tags that are open in the innermost expression around them, or in the page. A closing tag of
another name is a fault at that tag. One of these names closes the innermost tag of the name and
with it exactly the tags in that one, and reading goes on behind it, around the tag that was closed.
A tag in a page or in an expression, with no tag around it, is left open only at the end of the
page. All closing tags in the nodes of a page were met in this way, but for those of raw content. -/
theorem closing_tags_are_resolved_by_scope (levels : Nat) (page : Text) :
    (∀ frames c opened, Reaches levels page frames c → c.opened? = some opened →
      opened = scope frames) ∧
    (∀ frames levels' opened inside rest, CodePoint.char '>' ∉ inside →
      Reaches levels page frames
        (.content levels' opened (closingSource (some inside) ++ rest)) →
      (inside.trim ∉ scope frames →
        ∃ before, page = before ++ (closingSource (some inside) ++ rest) ∧
          Document.parseWithin levels page =
            .error (.fault (.unexpectedClosingTag inside.trim) before.width
              (before.count (.char '\n') + 1))) ∧
      (inside.trim ∈ scope frames →
        ∃ (within : List ActiveTag) (t : ActiveTag) (outer : List Frame),
          frames = within.map Frame.tag ++ .tag t :: outer ∧
          t.name = inside.trim ∧ t.ClosedBy inside rest ∧ GoesOn levels page outer t rest ∧
          ∀ u ∈ within, u.name ≠ inside.trim ∧
            u.LeftOpenBefore (closingSource (some inside) ++ rest))) ∧
    (∀ frames levels' opened left node rest,
      Reaches levels page frames (.tag levels' opened left) → scope frames = [] →
        (readers levels').tag opened left = .ok ⟨node, rest⟩ → node.isUnclosed = true →
          rest = []) ∧
    (∀ nodes node inside, readPageWithin levels page = .ok nodes → Among node nodes →
      node.closing? = some inside → node.isRaw = false →
        ∃ frames levels' opened rest, CodePoint.char '>' ∉ inside ∧ inside.trim ∈ scope frames ∧
          Reaches levels page frames
            (.content levels' opened (closingSource (some inside) ++ rest))) := by
  refine ⟨?_, ?_, ?_, ?_⟩
  · intro frames c opened reached hopened
    exact reached.opened?_eq_scope hopened
  · intro frames levels' opened inside rest bracket reached
    refine ⟨fun hname => ?_, fun hname => reached.closes bracket hname⟩
    obtain ⟨before, hpage⟩ := reached.placed.left_suffix
    refine ⟨before, hpage.symm, ?_⟩
    rw [Document.parseWithin, reached.unexpected bracket hname, ← locate_fault hpage.symm]
    rfl
  · intro frames levels' opened left node rest reached hscope returns hunclosed
    exact reached.left_eq_nil hscope returns hunclosed
  · intro nodes node inside h among closing markup
    exact exists_met_of_readPageWithin h among closing markup

/-- In `<a><b></a>` the closing tag closes the outer tag, and the inner one with it. -/
theorem closing_tag_closes_outer_and_inner :
    ∃ frames levels' opened, CodePoint.char '>' ∉ text "a" ∧
      Reaches 2 (text "<a><b></a>") frames
        (.content levels' opened (closingSource (some (text "a")) ++ [])) ∧
      (text "a").trim ∈ scope frames ∧
      ∃ (within : List ActiveTag) (t : ActiveTag) (outer : List Frame),
        frames = within.map Frame.tag ++ .tag t :: outer ∧ t.name = (text "a").trim ∧
          t.ClosedBy (text "a") [] := by
  have hfront : readFrontmatter (text "<a><b></a>") = .ok ⟨[], text "<a><b></a>"⟩ := rfl
  have hpage : Reaches 2 (text "<a><b></a>") [] (.content 2 [] (text "<a><b></a>")) :=
    .start hfront
  have hopening : readOpenTag (readers 1) (text "<a><b></a>") =
      .ok ⟨⟨text "a", [], false⟩, text "<b></a>"⟩ := rfl
  have houter : Reaches 2 (text "<a><b></a>") [.tag ⟨2, [], text "<a><b></a>", text "a"⟩]
      (.content 1 [text "a"] (text "<b></a>")) :=
    (hpage.call (.tagInContent rfl)).call (.children rfl hopening rfl rfl)
  have hopening' : readOpenTag (readers 0) (text "<b></a>") =
      .ok ⟨⟨text "b", [], false⟩, text "</a>"⟩ := rfl
  have hinner : Reaches 2 (text "<a><b></a>")
      [.tag ⟨1, [text "a"], text "<b></a>", text "b"⟩, .tag ⟨2, [], text "<a><b></a>", text "a"⟩]
      (.content 0 [text "b", text "a"] (closingSource (some (text "a")) ++ [])) :=
    (houter.call (.tagInContent rfl)).call (.children rfl hopening' rfl rfl)
  have bracket : CodePoint.char '>' ∉ text "a" := by decide
  have hname : (text "a").trim ∈ scope
      [.tag ⟨1, [text "a"], text "<b></a>", text "b"⟩, .tag ⟨2, [], text "<a><b></a>", text "a"⟩] :=
    by decide
  have hclosing := ((closing_tags_are_resolved_by_scope 2 (text "<a><b></a>")).2.1 _ _ _ _ _
    bracket hinner).2 hname
  obtain ⟨within, t, outer, hframes, ht, closed, -⟩ := hclosing
  exact ⟨_, _, _, bracket, hinner, hname, within, t, outer, hframes, ht, closed⟩

end VisibleText
