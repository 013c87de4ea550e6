import VisibleText.Proofs.ItemLocality

/-!
# Reading is local

What a reader read, it reads again when other text follows, provided that it ends as before: text
has to be ended by what follows, and a tag that was left open has to meet the same closing tag, or
the end of the page (`SameEnd`). Everything else is read the same whatever follows
(`readers_local`), so a change of the page changes nothing about the nodes before it.

Nor does it change a tag that one of its attributes has another value between its quotes
(`readTag_alike`).
-/

set_option autoImplicit false

namespace VisibleText.Markup

variable {inner : Readers} {opened : List Text}

/-! ## Content -/

theorem SameEnd.eq_nil {rest' : Text} (h : SameEnd [] rest') : rest' = [] := by
  cases h
  rfl

theorem SameEnd.textEnds {rest rest' : Text} (h : SameEnd rest rest') : TextEnds rest' := by
  cases h with
  | pageEnd => exact .inl rfl
  | closing => exact .inr rfl

/-- What is read as no node is a closing tag. -/
theorem exists_closing_of_readItem {left : Text} {taken : Taken Item}
    (h : readItem inner opened left = .ok taken) (hitem : ∀ node, taken.value ≠ .node node) :
    ∃ inside behind, left = closingSource (some inside) ++ behind ∧
      CodePoint.char '>' ∉ inside := by
  unfold readItem at h
  -- every other kind of thing is read as a node
  split at h
  · obtain ⟨⟨value, behind⟩, -, h⟩ := exists_of_bind_eq_ok h
    cases h
    exact absurd rfl (hitem _)
  split at h
  · obtain ⟨⟨value, behind⟩, -, h⟩ := exists_of_bind_eq_ok h
    cases h
    exact absurd rfl (hitem _)
  split at h
  · next hclose =>
    obtain ⟨⟨inside, behind⟩, hinside, -⟩ := exists_of_bind_eq_ok h
    have hleft := readPast_eq_append hinside
    refine ⟨inside, behind, ?_, not_mem_of_readPast hinside⟩
    rw [eq_append_of_isPrefixOf hclose, show (text "</").length = 2 from rfl, hleft]
    simp [closingSource, text]
  split at h
  · obtain ⟨⟨node, behind⟩, -, h⟩ := exists_of_bind_eq_ok h
    cases h
    exact absurd rfl (hitem _)
  split at h
  · obtain ⟨⟨pieces, behind⟩, -, h⟩ := exists_of_bind_eq_ok h
    cases h
    exact absurd rfl (hitem _)
  · cases h
    exact absurd rfl (hitem _)

theorem of_readItem_closing {left inside rest : Text}
    (h : readItem inner opened left = .ok ⟨.closing inside, rest⟩) :
    left = closingSource (some inside) ++ rest ∧ CodePoint.char '>' ∉ inside ∧
      opened.head? = some inside.trim := by
  obtain ⟨found, behind, hleft, hbracket⟩ :=
    exists_closing_of_readItem h (by rintro node ⟨⟩)
  rw [hleft, readItem_closing hbracket] at h
  split at h
  · next hhead =>
    cases h
    exact ⟨hleft, hbracket, hhead⟩
  split at h <;> cases h

theorem of_readItem_closingOuter {inside behind rest : Text}
    (bracket : CodePoint.char '>' ∉ inside)
    (h : readItem inner opened (closingSource (some inside) ++ behind) =
      .ok ⟨.closingOuter, rest⟩) :
    opened.head? ≠ some inside.trim ∧ opened.contains inside.trim = true := by
  rw [readItem_closing bracket] at h
  split at h
  · cases h
  · next hhead =>
    split at h
    · next hmem => exact ⟨hhead, hmem⟩
    · cases h

theorem readContent_nil (steps : Nat) :
    readContent inner opened steps [] = .ok ⟨⟨[], none⟩, []⟩ := by
  cases steps <;> rfl

theorem readContent_closing {left rest inside : Text} {steps : Nat} (left_ne : left ≠ [])
    (hitem : readItem inner opened left = .ok ⟨.closing inside, rest⟩) :
    readContent inner opened (steps + 1) left = .ok ⟨⟨[], some inside⟩, rest⟩ := by
  rw [readContent, if_neg (by simpa using left_ne), hitem]
  rfl

theorem readContent_closingOuter {left rest : Text} {steps : Nat} (left_ne : left ≠ [])
    (hitem : readItem inner opened left = .ok ⟨.closingOuter, rest⟩) :
    readContent inner opened (steps + 1) left = .ok ⟨⟨[], none⟩, rest⟩ := by
  rw [readContent, if_neg (by simpa using left_ne), hitem]
  rfl

theorem readContent_cons {left rest rest' : Text} {node : Node} {content : Content} {steps : Nat}
    (left_ne : left ≠ []) (hnode : readItem inner opened left = .ok ⟨.node node, rest⟩)
    (hcontent : readContent inner opened steps rest = .ok ⟨content, rest'⟩) :
    readContent inner opened (steps + 1) left =
      .ok ⟨⟨node :: content.nodes, content.closing⟩, rest'⟩ := by
  rw [readContent, if_neg (by simpa using left_ne), hnode]
  exact bind_eq_of_eq_ok hcontent

/-- A step of reading content: there is none left, or a closing tag ends it, or a node is read. -/
theorem readContent_cases {left : Text} {taken : Taken Content} {steps : Nat}
    (hlength : left.length ≤ steps) (h : readContent inner opened steps left = .ok taken) :
    (left = [] ∧ taken = ⟨⟨[], none⟩, []⟩) ∨
    (∃ inside, readItem inner opened left = .ok ⟨.closing inside, taken.left⟩ ∧
      taken.value = ⟨[], some inside⟩) ∨
    (readItem inner opened left = .ok ⟨.closingOuter, taken.left⟩ ∧ taken.value = ⟨[], none⟩) ∨
    (∃ node rest content steps', left ≠ [] ∧ steps = steps' + 1 ∧
      readItem inner opened left = .ok ⟨.node node, rest⟩ ∧
        readContent inner opened steps' rest = .ok ⟨content, taken.left⟩ ∧
          taken.value = ⟨node :: content.nodes, content.closing⟩) := by
  cases steps with
  | zero =>
    -- the steps run out only with the text
    cases h
    obtain rfl := List.length_eq_zero_iff.1 (Nat.le_zero.1 hlength)
    exact .inl ⟨rfl, rfl⟩
  | succ steps =>
    unfold readContent at h
    split at h
    · next hempty =>
      cases h
      exact .inl ⟨List.isEmpty_iff.1 hempty, rfl⟩
    · next hempty =>
      obtain ⟨⟨item, rest⟩, hitem, h⟩ := exists_of_bind_eq_ok h
      cases item with
      | closing inside =>
        cases h
        exact .inr (.inl ⟨inside, hitem, rfl⟩)
      | closingOuter =>
        cases h
        exact .inr (.inr (.inl ⟨hitem, rfl⟩))
      | node node =>
        obtain ⟨⟨content, behind⟩, hcontent, h⟩ := exists_of_bind_eq_ok h
        cases h
        exact .inr (.inr (.inr ⟨node, rest, content, steps, by simpa using hempty, rfl, hitem,
          hcontent, rfl⟩))

section Levels

variable {levels : Nat}

theorem bracket_not_mem_of_readContent {inside : Text} :
    ∀ (steps : Nat) (left : Text) (taken : Taken Content), left.length ≤ steps →
      readContent (readers levels) opened steps left = .ok taken →
        taken.value.closing = some inside → CodePoint.char '>' ∉ inside := by
  intro steps
  induction steps using Nat.strongRecOn with
  | ind steps ih =>
    intro left taken hlength h hclosing
    rcases readContent_cases hlength h with ⟨-, rfl⟩ | ⟨inside', hitem, hvalue⟩ | ⟨-, hvalue⟩ |
      ⟨node, rest, content, steps', left_ne, rfl, hnode, hcontent, hvalue⟩
    · cases hclosing
    · rw [hvalue] at hclosing
      cases hclosing
      exact (of_readItem_closing hitem).2.1
    · rw [hvalue] at hclosing
      cases hclosing
    · have hread : Reads left node rest := readItem_read (readers_faithful levels) left_ne hnode
      have hshort := hread.length_lt
      rw [hvalue] at hclosing
      exact ih steps' (Nat.lt_succ_self _) rest _ (by omega) hcontent hclosing

/-- What ends text before some content ends it before the same content with another end. -/
theorem textEnds_of_readContent (hinner : (readers levels).Local) {left rest' : Text} {steps : Nat}
    {taken : Taken Content} (hlength : left.length ≤ steps) (hends : TextEnds left)
    (h : readContent (readers levels) opened steps left = .ok taken)
    (hend : taken.value.closing = none → SameEnd taken.left rest') :
    TextEnds (nodesSource taken.value.nodes ++ (closingSource taken.value.closing ++ rest')) := by
  rcases readContent_cases hlength h with ⟨rfl, rfl⟩ | ⟨inside, -, hvalue⟩ | ⟨-, hvalue⟩ |
    ⟨node, rest, content, steps', left_ne, rfl, hnode, hcontent, hvalue⟩
  · exact (hend rfl).textEnds
  · rw [hvalue]
    exact .inr rfl
  · rw [hvalue] at hend ⊢
    exact (hend rfl).textEnds
  · have hleft : left = node.source ++ rest :=
      (show Reads left node rest from
        readItem_read (readers_faithful levels) left_ne hnode).eq_append
    have htwo := two_le_length_of_textEnds hinner hleft left_ne hends hnode
    rcases hends with hnil | hends
    · exact absurd hnil left_ne
    · rw [hvalue, nodesSource, List.append_assoc]
      rw [hleft] at hends
      exact .inr ((endsText_append_congr htwo _ _).trans hends)

/-- Content is read again if what was left open in it meets the same end. -/
theorem readContent_local (hinner : (readers levels).Local) (opened : List Text) :
    ∀ (steps : Nat) (left : Text) (taken : Taken Content), left.length ≤ steps →
      readContent (readers levels) opened steps left = .ok taken →
        ∀ rest' : Text, (taken.value.closing = none → SameEnd taken.left rest') →
          ∀ steps' : Nat, (nodesSource taken.value.nodes ++
            (closingSource taken.value.closing ++ rest')).length ≤ steps' →
              readContent (readers levels) opened steps' (nodesSource taken.value.nodes ++
                (closingSource taken.value.closing ++ rest')) = .ok ⟨taken.value, rest'⟩ := by
  intro steps
  induction steps using Nat.strongRecOn with
  | ind steps ih =>
    intro left taken hlength h rest' hend steps' hsteps
    rcases readContent_cases hlength h with ⟨rfl, rfl⟩ | ⟨inside, hitem, hvalue⟩ |
      ⟨hitem, hvalue⟩ | ⟨node, rest, content, earlier, left_ne, rfl, hnode, hcontent, hvalue⟩
    · rw [(hend rfl).eq_nil]
      exact readContent_nil steps'
    · -- the closing tag of this content
      obtain ⟨-, hbracket, hhead⟩ := of_readItem_closing hitem
      rw [hvalue] at hsteps ⊢
      have hpos : 0 < steps' := Nat.lt_of_lt_of_le (Nat.succ_pos _) hsteps
      obtain ⟨steps'', rfl⟩ := Nat.exists_eq_add_one.2 hpos
      refine readContent_closing (List.cons_ne_nil _ _) ?_
      exact (readItem_closing hbracket rest').trans (if_pos hhead)
    · -- the closing tag of a tag further out, which both texts have
      have hleft := (Markup.readItem_closingOuter hitem).1
      have hsame := hend (by rw [hvalue])
      rw [hvalue] at hsteps ⊢
      rw [hleft] at hitem hsame
      cases hsame with
      | pageEnd => cases (Markup.readItem_closingOuter hitem).2
      | closing inside rest rest'' bracket =>
        obtain ⟨hhead, hmem⟩ := of_readItem_closingOuter bracket hitem
        obtain ⟨steps'', rfl⟩ : ∃ steps'', steps' = steps'' + 1 :=
          ⟨steps' - 1, by
            simp only [nodesSource, closingSource, List.length_append, List.length_cons] at hsteps
            omega⟩
        refine readContent_closingOuter (List.cons_ne_nil _ _) ?_
        exact (readItem_closing bracket rest'').trans ((if_neg hhead).trans (if_pos hmem))
    · have hread : Reads left node rest := readItem_read (readers_faithful levels) left_ne hnode
      have hleft := hread.eq_append
      have hshort := hread.length_lt
      have hrest := (readContent_reads (readers_faithful levels) opened _ _ _ (by omega)
        hcontent).1.eq_append
      rw [hvalue] at hend hsteps ⊢
      simp only [nodesSource, List.append_assoc, List.length_append] at hend hsteps ⊢
      have hsource := List.length_pos_iff.2 hread.source_ne
      obtain ⟨steps'', rfl⟩ : ∃ steps'', steps' = steps'' + 1 := ⟨steps' - 1, by omega⟩
      have hcontent' := ih earlier (Nat.lt_succ_self _) rest _ (by omega) hcontent rest' hend
        steps'' (by simp only [List.length_append]; omega)
      refine readContent_cons (List.append_ne_nil_of_left_ne_nil hread.source_ne _) ?_ hcontent'
      rw [hleft] at hnode
      refine readItem_local hinner hread.source_ne hnode ?_ ?_
      · rintro run rfl
        exact textEnds_of_readContent hinner (by omega) (textEnds_of_readItem hinner hnode)
          hcontent hend
      · -- nothing stands behind a tag that was left open but the end of this content
        intro hopen
        have hended := (readItem_node (readers_tidy levels) (hleft ▸ left_ne) hnode).2 hopen
        have hnodes := (readContent_tidy (readers_tidy levels) opened _ _ _ (by omega)
          hcontent).2.1 hended
        simp only at hnodes
        rw [hnodes] at hrest ⊢
        cases hclosing : content.closing with
        | none =>
          rw [hclosing] at hrest hend
          rw [hrest]
          exact hend rfl
        | some inside =>
          rw [hclosing] at hrest
          rw [hrest]
          exact .closing inside _ _
            (bracket_not_mem_of_readContent _ _ _ (by omega) hcontent hclosing)

end Levels

/-! ## Tags -/

theorem readTag_fragment {body rest : Text} {content : Content}
    (h : readContent inner ([] :: opened) body.length body = .ok ⟨content, rest⟩) :
    readTag inner opened (.char '<' :: .char '>' :: body) =
      .ok ⟨.fragment content.nodes content.closing, rest⟩ := by
  have hprefix : (text "<>").isPrefixOf (.char '<' :: .char '>' :: body) = true := rfl
  rw [readTag, if_pos hprefix]
  simp only [List.drop_succ_cons, List.drop_zero, h]
  rfl

/-- What is read behind an opening tag of its own kind. -/
inductive Behind (inner : Readers) (opened : List Text) (opening : OpenTag) :
    Text → List Node → Option Text → Text → Prop
  | nothing {rest : Text} (opens : opening.opensNothing = true) :
      Behind inner opened opening rest [] none rest
  | raw {behind raw closing rest : Text} (opens : opening.opensNothing = false)
      (kind : isRaw opening.name = true)
      (call : rawContent? opening.name behind = some (raw, closing, rest)) :
      Behind inner opened opening behind (if raw.isEmpty then [] else [.text raw]) (some closing)
        rest
  | content {behind rest : Text} {content : Content} (opens : opening.opensNothing = false)
      (kind : isRaw opening.name = false)
      (call : readContent inner (opening.name :: opened) behind.length behind =
        .ok ⟨content, rest⟩) :
      Behind inner opened opening behind content.nodes content.closing rest

/-- A tag is read as its opening tag and what is behind that. -/
theorem readTag_eq_ok_iff {left rest : Text} {node : Node}
    (hfragment : (text "<>").isPrefixOf left = false) :
    readTag inner opened left = .ok ⟨node, rest⟩ ↔
      ∃ opening behind children closing, readOpenTag inner left = .ok ⟨opening, behind⟩ ∧
        Behind inner opened opening behind children closing rest ∧
          node = .tag opening children closing := by
  rw [readTag, if_neg (Bool.eq_false_iff.1 hfragment)]
  constructor
  · intro h
    obtain ⟨⟨opening, behind⟩, hopening, h⟩ := exists_of_bind_eq_ok h
    simp only at h
    refine ⟨opening, behind, ?_⟩
    -- the opening tag decides how what is behind it is read
    split at h
    · next hopens =>
      cases h
      exact ⟨_, _, hopening, .nothing hopens, rfl⟩
    · next hopens =>
      have hopens := Bool.eq_false_iff.2 hopens
      split at h
      · next kind =>
        split at h
        · cases h
        · next raw closing rest' hraw =>
          cases h
          exact ⟨_, _, hopening, .raw hopens kind hraw, rfl⟩
      · next kind =>
        obtain ⟨⟨content, rest'⟩, hcontent, h⟩ := exists_of_bind_eq_ok h
        cases h
        exact ⟨_, _, hopening, .content hopens (Bool.eq_false_iff.2 kind) hcontent, rfl⟩
  · rintro ⟨opening, behind, children, closing, hopening, hbehind, rfl⟩
    rw [hopening]
    cases hbehind with
    | nothing opens =>
      change (if opening.opensNothing = true then _ else _) = _
      rw [if_pos opens]
      rfl
    | raw opens kind call =>
      change (if opening.opensNothing = true then _ else _) = _
      rw [if_neg (Bool.eq_false_iff.1 opens), if_pos kind, call]
      rfl
    | content opens kind call =>
      change (if opening.opensNothing = true then _ else _) = _
      rw [if_neg (Bool.eq_false_iff.1 opens), if_neg (Bool.eq_false_iff.1 kind)]
      simp only [call]
      rfl

/-- Attributes with other values do not make another tag. -/
theorem Behind.withParts {opening : OpenTag} {behind rest : Text} {children : List Node}
    {closing : Option Text} (h : Behind inner opened opening behind children closing rest)
    (parts' : List TagPart) :
    Behind inner opened { opening with parts := parts' } behind children closing rest := by
  cases h with
  | nothing opens => exact .nothing opens
  | raw opens kind call => exact .raw opens kind call
  | content opens kind call => exact .content opens kind call

section Levels

variable {levels : Nat}

theorem Behind.local_end (hinner : (readers levels).Local) {opening : OpenTag} {behind rest : Text}
    {children : List Node} {closing : Option Text}
    (h : Behind (readers levels) opened opening behind children closing rest) {rest' : Text}
    (ending : (Node.tag opening children closing).isUnclosed = true → SameEnd rest rest') :
    Behind (readers levels) opened opening
      (nodesSource children ++ (closingSource closing ++ rest')) children closing rest' := by
  cases h with
  | nothing opens => exact .nothing opens
  | @raw raw _ _ opens kind call =>
    have hread := rawContent?_local (bracket_not_mem_of_isRaw kind) call rest'
    have hraw : nodesSource (if raw.isEmpty then [] else [.text raw]) = raw := by
      split
      · next hempty => exact (List.isEmpty_iff.1 hempty).symm
      · simp [nodesSource, Node.source]
    rw [hraw]
    exact .raw opens kind hread
  | content opens kind call =>
    -- the tag was left open if its content was
    refine .content opens kind (readContent_local hinner _ _ _ _ (Nat.le_refl _) call rest'
      (fun hnone => ending ?_) _ (Nat.le_refl _))
    simp only at hnone
    rw [hnone, Node.isUnclosed, opens]
    rfl

theorem fragment_congr {opening : OpenTag} {parts' : List TagPart}
    (halike : List.Forall₂ TagPart.Alike opening.parts parts') (rest rest' : Text) :
    (text "<>").isPrefixOf ({ opening with parts := parts' }.source ++ rest') =
      (text "<>").isPrefixOf (opening.source ++ rest) := by
  rw [OpenTag.source_append, OpenTag.source_append]
  exact isPrefixOf_pair_congr (head?_openTag halike rest rest')

/-- A tag that was read from its source was read as its opening tag and what is behind that. -/
theorem of_readTag_tag {opening : OpenTag} {rest : Text} {children : List Node}
    {closing : Option Text}
    (h : readTag (readers levels) opened ((Node.tag opening children closing).source ++ rest) =
      .ok ⟨.tag opening children closing, rest⟩) :
    ∃ behind, (text "<>").isPrefixOf (opening.source ++ behind) = false ∧
      readOpenTag (readers levels) (opening.source ++ behind) = .ok ⟨opening, behind⟩ ∧
        Behind (readers levels) opened opening behind children closing rest := by
  have hsource : (Node.tag opening children closing).source ++ rest =
      opening.source ++ (nodesSource children ++ (closingSource closing ++ rest)) := by
    simp [Node.source]
  rw [hsource] at h
  have hfragment : (text "<>").isPrefixOf
      (opening.source ++ (nodesSource children ++ (closingSource closing ++ rest))) = false := by
    rw [Bool.eq_false_iff]
    intro hprefix
    rw [readTag, if_pos hprefix] at h
    obtain ⟨_, -, h⟩ := exists_of_bind_eq_ok h
    cases h
  -- the opening tag that was read is the one that stands there
  obtain ⟨_, behind, _, _, hopening, hbehind, ⟨⟩⟩ := (readTag_eq_ok_iff hfragment).1 h
  have heq : opening.source ++ (nodesSource children ++ (closingSource closing ++ rest)) =
      opening.source ++ behind :=
    readOpenTag_eq_append (readers_faithful levels) hopening
  rw [heq] at hfragment hopening
  exact ⟨behind, hfragment, hopening, hbehind⟩

/-- A tag is read back from an opening tag that was read and what is behind that, also with other
values between the quotes of its attributes. -/
theorem readTag_of_behind (hinner : (readers levels).Local) {opening : OpenTag} {behind : Text}
    (hfragment : (text "<>").isPrefixOf (opening.source ++ behind) = false)
    (hopening : readOpenTag (readers levels) (opening.source ++ behind) = .ok ⟨opening, behind⟩)
    {parts' : List TagPart} (halike : List.Forall₂ TagPart.Alike opening.parts parts')
    {children : List Node} {closing : Option Text} {rest : Text}
    (hbehind : Behind (readers levels) opened opening
      (nodesSource children ++ (closingSource closing ++ rest)) children closing rest) :
    readTag (readers levels) opened
      ((Node.tag { opening with parts := parts' } children closing).source ++ rest) =
        .ok ⟨.tag { opening with parts := parts' } children closing, rest⟩ := by
  have hsource : (Node.tag { opening with parts := parts' } children closing).source ++ rest =
      { opening with parts := parts' }.source ++
        (nodesSource children ++ (closingSource closing ++ rest)) := by
    simp [Node.source]
  rw [hsource, readTag_eq_ok_iff ((fragment_congr halike _ _).trans hfragment)]
  exact ⟨_, _, _, _, readOpenTag_alike hinner (readers_faithful levels) hopening halike _,
    hbehind.withParts parts', rfl⟩

/-- A tag is read the same with other values between the quotes of its attributes, and whatever
follows it, if it was closed or meets the same end. -/
theorem readTag_alike (hinner : (readers levels).Local) {opening : OpenTag} {rest : Text}
    {children : List Node} {closing : Option Text}
    (h : readTag (readers levels) opened ((Node.tag opening children closing).source ++ rest) =
      .ok ⟨.tag opening children closing, rest⟩)
    {parts' : List TagPart} (halike : List.Forall₂ TagPart.Alike opening.parts parts')
    {rest' : Text}
    (ending : (Node.tag opening children closing).isUnclosed = true → SameEnd rest rest') :
    readTag (readers levels) opened
      ((Node.tag { opening with parts := parts' } children closing).source ++ rest') =
        .ok ⟨.tag { opening with parts := parts' } children closing, rest'⟩ := by
  obtain ⟨behind, hfragment, hopening, hbehind⟩ := of_readTag_tag h
  exact readTag_of_behind hinner hfragment hopening halike (hbehind.local_end hinner ending)

theorem readTag_isTag {left rest : Text} {node : Node}
    (h : readTag inner opened left = .ok ⟨node, rest⟩) : node.isTag = true := by
  cases hfragment : (text "<>").isPrefixOf left with
  | true =>
    rw [readTag, if_pos hfragment] at h
    obtain ⟨_, -, h⟩ := exists_of_bind_eq_ok h
    cases h
    rfl
  | false =>
    obtain ⟨_, _, _, _, -, -, rfl⟩ := (readTag_eq_ok_iff hfragment).1 h
    rfl

/-- With a single tag open, its content is left open only at the end of the page. -/
theorem left_eq_nil_of_readContent {name : Text} :
    ∀ (steps : Nat) (left : Text) (taken : Taken Content), left.length ≤ steps →
      readContent (readers levels) [name] steps left = .ok taken →
        taken.value.closing = none → taken.left = [] := by
  intro steps
  induction steps using Nat.strongRecOn with
  | ind steps ih =>
    intro left taken hlength h hclosing
    rcases readContent_cases hlength h with ⟨-, rfl⟩ | ⟨inside, -, hvalue⟩ | ⟨hitem, -⟩ |
      ⟨node, rest, content, steps', left_ne, rfl, hnode, hcontent, hvalue⟩
    · rfl
    · rw [hvalue] at hclosing
      cases hclosing
    · -- a closing tag of this name is the closing tag of the content
      obtain ⟨inside, behind, hleft, bracket⟩ :=
        exists_closing_of_readItem hitem (by rintro node ⟨⟩)
      rw [hleft] at hitem
      obtain ⟨hhead, hmem⟩ := of_readItem_closingOuter bracket hitem
      simp only [List.contains_cons, List.contains_nil, Bool.or_false, beq_iff_eq] at hmem
      exact absurd (congrArg some hmem.symm) hhead
    · have hread : Reads left node rest := readItem_read (readers_faithful levels) left_ne hnode
      have hshort := hread.length_lt
      rw [hvalue] at hclosing
      exact ih steps' (Nat.lt_succ_self _) rest ⟨content, taken.left⟩ (by omega) hcontent hclosing

/-- A tag that was left open has content that was left open. -/
theorem exists_content_of_isUnclosed {left rest : Text} {node : Node}
    (h : readTag inner opened left = .ok ⟨node, rest⟩) (hopen : node.isUnclosed = true) :
    ∃ name behind content,
      readContent inner (name :: opened) behind.length behind = .ok ⟨content, rest⟩ ∧
        content.closing = none := by
  cases hfragment : (text "<>").isPrefixOf left with
  | true =>
    rw [readTag, if_pos hfragment] at h
    obtain ⟨⟨content, behind⟩, hcontent, h⟩ := exists_of_bind_eq_ok h
    cases h
    refine ⟨[], _, content, hcontent, ?_⟩
    cases hclosing : content.closing with
    | none => rfl
    | some inside =>
      rw [hclosing] at hopen
      cases hopen
  | false =>
    obtain ⟨opening, _, _, _, -, hbehind, rfl⟩ := (readTag_eq_ok_iff hfragment).1 h
    cases hbehind with
    -- a tag that holds nothing is not left open, and raw content ends with its closing tag
    | nothing opens =>
      rw [Node.isUnclosed, opens] at hopen
      cases hopen
    | raw => cases hopen
    | @content _ content _ _ call =>
      refine ⟨opening.name, _, content, call, ?_⟩
      cases hclosing : content.closing with
      | none => rfl
      | some inside =>
        rw [hclosing] at hopen
        cases hopen

theorem readTag_alone {left rest : Text} {node : Node}
    (h : readTag (readers levels) [] left = .ok ⟨node, rest⟩) (hopen : node.isUnclosed = true) :
    rest = [] := by
  obtain ⟨name, behind, content, hcontent, hclosing⟩ := exists_content_of_isUnclosed h hopen
  exact left_eq_nil_of_readContent _ _ _ (Nat.le_refl _) hcontent hclosing

/-- A tag is read again whatever follows it, if it was closed or meets the same end. -/
theorem readTag_local (hinner : (readers levels).Local) {node : Node} {rest rest' : Text}
    (h : readTag (readers levels) opened (node.source ++ rest) = .ok ⟨node, rest⟩)
    (ending : node.isUnclosed = true → SameEnd rest rest') :
    readTag (readers levels) opened (node.source ++ rest') = .ok ⟨node, rest'⟩ := by
  have htag := readTag_isTag h
  cases node with
  | text | comment | doctype | expression | frontmatter => cases htag
  | tag opening children closing =>
    exact readTag_alike hinner h (List.forall₂_same.2 fun part _ => .same part) ending
  | fragment children closing =>
    have hsource (t : Text) : (Node.fragment children closing).source ++ t =
        .char '<' :: .char '>' :: (nodesSource children ++ (closingSource closing ++ t)) := by
      simp [Node.source]
    rw [hsource] at h ⊢
    obtain ⟨⟨content, behind⟩, hcontent, h⟩ := exists_of_bind_eq_ok h
    cases h
    refine readTag_fragment (readContent_local hinner _ _ _ _ (Nat.le_refl _) hcontent rest'
      (fun hnone => ending ?_) _ (Nat.le_refl _))
    rw [hnone]
    rfl

end Levels

/-- However many levels of nesting they may go down, the readers are local. -/
theorem readers_local (levels : Nat) : (readers levels).Local := by
  induction levels with
  | zero =>
    -- these readers read nothing
    refine ⟨fun h => ?_, fun h => ?_, fun h => ?_, fun h => ?_⟩ <;> cases h
  | succ levels ih =>
    exact ⟨readTag_isTag, readTag_local ih, readTag_alone,
      readExpression_local ih (readers_faithful levels)⟩

end VisibleText.Markup
