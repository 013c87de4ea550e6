import VisibleText.Proofs.Locality
import VisibleText.Proofs.Revision

/-!
# Reading altered markup

Markup in which one text, or one value between quotes, was altered is read as it was altered: what
stands before the change is local, what stands behind it has not changed, and around it the tags
are the same (`readTag_alters`, `readContent_alters`). A new value between quotes must not hold the
quote; a new text must be plain (`IsPlain`).
-/

set_option autoImplicit false

namespace VisibleText.Markup

open VisibleText.Document (Alters AltersAmong QuotedAttribute Revision)

variable {inner : Readers} {opened : List Text} {levels : Nat}

/-! ## Plain text -/

/-- Text that is read as text wherever it stands: it is not empty, and no markup or code starts in
it. -/
structure IsPlain (t : Text) : Prop where
  ne_nil : t ≠ []
  bracket : CodePoint.char '<' ∉ t
  brace : CodePoint.char '{' ∉ t

theorem endsText_of_ne {c : CodePoint} (hbrace : c ≠ .char '{') (hbracket : c ≠ .char '<')
    (t : Text) : endsText (c :: t) = false := by
  unfold endsText
  split
  · next hcons => exact absurd (List.cons.inj hcons).1 hbrace
  · next hcons => exact absurd (List.cons.inj hcons).1 hbracket
  · rfl

theorem textRun_tail_of_plain {t rest : Text} (hbracket : CodePoint.char '<' ∉ t)
    (hbrace : CodePoint.char '{' ∉ t) (hrest : TextEnds rest) :
    textRun.tail (t ++ rest) = (t, rest) := by
  induction t with
  | nil => exact textRun_tail_of_textEnds hrest
  | cons c t ih =>
    obtain ⟨hc, hbracket⟩ := not_or.1 (List.mem_cons.not.1 hbracket)
    obtain ⟨hc', hbrace⟩ := not_or.1 (List.mem_cons.not.1 hbrace)
    have hgoes := endsText_of_ne (Ne.symm hc') (Ne.symm hc) (t ++ rest)
    rw [List.cons_append, textRun.tail, hgoes]
    simp only [Bool.false_eq_true, if_false, ih hbracket hbrace]

/-- Plain text is read as text wherever something ends it. -/
theorem readItem_plain {t rest : Text} (ht : IsPlain t) (hrest : TextEnds rest) :
    readItem inner opened (t ++ rest) = .ok ⟨.node (.text t), rest⟩ := by
  obtain ⟨ne_nil, hbracket, hbrace⟩ := ht
  obtain ⟨c, t, rfl⟩ := List.exists_cons_of_ne_nil ne_nil
  obtain ⟨hc, hbracket⟩ := not_or.1 (List.mem_cons.not.1 hbracket)
  obtain ⟨hc', hbrace⟩ := not_or.1 (List.mem_cons.not.1 hbrace)
  have hrun : textRun (c :: t ++ rest) = (c :: t, rest) := by
    simp only [List.cons_append, textRun, textRun_tail_of_plain hbracket hbrace hrest]
  have hopens : opensTag (c :: t ++ rest) = false := by
    rw [Bool.eq_false_iff]
    intro hopens
    obtain ⟨body, hbody⟩ := eq_cons_of_opensTag hopens
    exact hc (List.cons.inj hbody).1.symm
  refine readItem_text ?_ ?_ hopens ?_ hrun
  · simp [text, List.isPrefixOf, hc]
  · simp [text, List.isPrefixOf, hc]
  · simpa using Ne.symm hc'

/-! ## Altered nodes -/

/-- The new value of a text that is revised is plain. -/
def Readable (r : Revision) : Prop := r.kind = .text → IsPlain r.new

theorem alike_parts (before after : List TagPart) (q : QuotedAttribute) {value : Text}
    (proper : q.quote.mark ∉ value) :
    List.Forall₂ TagPart.Alike (before ++ q.part :: after)
      (before ++ (q.withValue value).part :: after) :=
  List.rel_append (List.forall₂_same.2 fun part _ => .same part)
    (.cons (.quoted q.name q.blankBefore q.blankAfter q.quote q.value proper)
      (List.forall₂_same.2 fun part _ => .same part))

/-- An altered tag starts with the same two code points. -/
theorem exists_start_of_alters {r : Revision} {position : Nat} {node node' : Node}
    (h : Alters r position node node') (htag : node.isTag = true) :
    ∃ t t', node.source = .char '<' :: t ∧ node'.source = .char '<' :: t' ∧
      ∀ rest rest', (t' ++ rest').head? = (t ++ rest).head? := by
  have hstart {opening : OpenTag} {parts' : List TagPart}
      (halike : List.Forall₂ TagPart.Alike opening.parts parts') (behind behind' : Text) :
      ∃ t t', opening.source ++ behind = .char '<' :: t ∧
        { opening with parts := parts' }.source ++ behind' = .char '<' :: t' ∧
          ∀ rest rest', (t' ++ rest').head? = (t ++ rest).head? := by
    refine ⟨_, _, opening.source_append behind, OpenTag.source_append _ behind',
      fun rest rest' => ?_⟩
    simp only [List.append_assoc]
    exact head?_openTag halike (behind ++ rest) (behind' ++ rest')
  cases h with
  | text => cases htag
  | quoted before after q parts_eq _ proper =>
    have halike := alike_parts before after q proper
    rw [← parts_eq] at halike
    simp only [Node.source, List.append_assoc]
    exact hstart halike _ _
  | child =>
    simp only [Node.source, List.append_assoc]
    exact hstart (List.forall₂_same.2 fun part _ => .same part) _ _
  | fragment => exact ⟨_, _, rfl, rfl, fun _ _ => rfl⟩

theorem source_ne_of_alters {r : Revision} {position : Nat} {node node' : Node} (hr : Readable r)
    (h : Alters r position node node') : node'.source ≠ [] := by
  cases h with
  | text revises => exact (hr (congrArg Revision.kind revises)).ne_nil
  | quoted | child => simp [Node.source, OpenTag.source]
  | fragment => exact List.cons_ne_nil _ _

/-- Readers for what is nested that read altered tags as they were altered. -/
structure Readers.Rereads (inner : Readers) : Prop where
  tag {r : Revision} {position : Nat} {opened : List Text} {node node' : Node} {rest : Text}
    (hr : Readable r) (halters : Alters r position node node')
    (h : inner.tag opened (node.source ++ rest) = .ok ⟨node, rest⟩) :
    inner.tag opened (node'.source ++ rest) = .ok ⟨node', rest⟩

theorem readItem_alters (hlocal : inner.Local) (hinner : inner.Rereads) {r : Revision}
    {position : Nat} {node node' : Node} {rest : Text} (hr : Readable r)
    (halters : Alters r position node node')
    (h : readItem inner opened (node.source ++ rest) = .ok ⟨.node node, rest⟩) :
    readItem inner opened (node'.source ++ rest) = .ok ⟨.node node', rest⟩ := by
  rcases readItem_node_cases h with ⟨_, rfl, -⟩ | ⟨_, rfl, -, -⟩ | ⟨hopens, hnode⟩ |
    ⟨_, rfl, -, -⟩ | ⟨run, rfl, -, -, -, -, -⟩
  -- only tags and text are ever altered
  · cases halters
  · cases halters
  · have htag := hlocal.isTag hnode
    obtain ⟨t, t', hsource, hsource', hhead⟩ := exists_start_of_alters halters htag
    have hopens' : opensTag (node'.source ++ rest) = true := by
      rw [hsource, List.cons_append] at hopens
      rw [hsource', List.cons_append, ← hopens]
      exact opensTag_congr (hhead rest rest)
    exact readItem_of_opensTag hopens' (hinner.tag hr halters hnode)
  · cases halters
  · cases halters with
    | text revises =>
      have hplain := hr (congrArg Revision.kind revises)
      exact readItem_plain hplain (textEnds_of_readItem hlocal h)

/-! ## Altered content -/

/-- Content that was left open meets its own end. -/
theorem sameEnd_of_readContent :
    ∀ (steps : Nat) (left : Text) (taken : Taken Content), left.length ≤ steps →
      readContent (readers levels) opened steps left = .ok taken →
        taken.value.closing = none → SameEnd taken.left taken.left := by
  intro steps
  induction steps using Nat.strongRecOn with
  | ind steps ih =>
    intro left taken hlength h hclosing
    rcases readContent_cases hlength h with ⟨-, rfl⟩ | ⟨inside, -, hvalue⟩ | ⟨hitem, -⟩ |
      ⟨node, rest, content, steps', left_ne, rfl, hnode, hcontent, hvalue⟩
    · exact .pageEnd
    · rw [hvalue] at hclosing
      cases hclosing
    · obtain ⟨inside, behind, hleft, bracket⟩ :=
        exists_closing_of_readItem hitem (by rintro node ⟨⟩)
      rw [(Markup.readItem_closingOuter hitem).1, hleft]
      exact .closing inside behind behind bracket
    · have hread : Reads left node rest := readItem_read (readers_faithful levels) left_ne hnode
      have hshort := hread.length_lt
      rw [hvalue] at hclosing
      exact ih steps' (Nat.lt_succ_self _) rest ⟨content, taken.left⟩ (by omega) hcontent hclosing

/-- Before altered nodes text ends as it did before. -/
theorem textEnds_of_alters {r : Revision} {position steps : Nat} {left rest : Text}
    {content : Content} {nodes' : List Node} (hlength : left.length ≤ steps)
    (hends : TextEnds left)
    (h : readContent (readers levels) opened steps left = .ok ⟨content, rest⟩)
    (halters : AltersAmong r position content.nodes nodes')
    (hstart : r.kind = .text → position ≠ r.start) (behind : Text) :
    TextEnds (nodesSource nodes' ++ behind) := by
  have hlocal := readers_local levels
  rcases readContent_cases hlength h with ⟨-, ⟨⟩⟩ | ⟨_, -, rfl⟩ | ⟨-, rfl⟩ |
    ⟨node, rest₁, content₁, steps', left_ne, -, hnode, -, rfl⟩
  · cases halters
  · cases halters
  · cases halters
  · have hleft : left = node.source ++ rest₁ :=
      (show Reads left node rest₁ from
        readItem_read (readers_faithful levels) left_ne hnode).eq_append
    have hends' : endsText (node.source ++ rest₁) = true := by
      rcases hends with hnil | hends
      · exact absurd hnil left_ne
      · exact hleft ▸ hends
    cases halters with
    | @head _ _ node' nodes first =>
      have htag : node.isTag = true := by
        cases first with
        | text revises =>
          exact absurd (congrArg Revision.start revises).symm
            (hstart (congrArg Revision.kind revises))
        | quoted | child | fragment => rfl
      obtain ⟨t, t', hsource, hsource', hhead⟩ := exists_start_of_alters first htag
      rw [hsource, List.cons_append] at hends'
      rw [nodesSource, List.append_assoc, hsource', List.cons_append]
      exact .inr ((endsText_congr (hhead _ _)).trans hends')
    | tail _ others =>
      -- the next node stays, and it is long enough to end the text by itself
      rw [nodesSource, List.append_assoc]
      have htwo := two_le_length_of_textEnds hlocal hleft left_ne hends hnode
      exact .inr ((endsText_append_congr htwo _ _).trans hends')

/-- Content in which a node was altered is read as it was altered. -/
theorem readContent_alters (hinner : (readers levels).Rereads) {r : Revision} (hr : Readable r) :
    ∀ (steps : Nat) (left : Text) (taken : Taken Content), left.length ≤ steps →
      readContent (readers levels) opened steps left = .ok taken →
        ∀ (position : Nat) (nodes' : List Node),
          AltersAmong r position taken.value.nodes nodes' →
            ∀ steps' : Nat, (nodesSource nodes' ++
              (closingSource taken.value.closing ++ taken.left)).length ≤ steps' →
                readContent (readers levels) opened steps' (nodesSource nodes' ++
                  (closingSource taken.value.closing ++ taken.left)) =
                    .ok ⟨⟨nodes', taken.value.closing⟩, taken.left⟩ := by
  intro steps
  induction steps using Nat.strongRecOn with
  | ind steps ih =>
    intro left taken hlength h position nodes' halters steps' hsteps
    have hlocal := readers_local levels
    rcases readContent_cases hlength h with ⟨-, rfl⟩ | ⟨_, -, hvalue⟩ | ⟨-, hvalue⟩ |
      ⟨node, rest, content, earlier, left_ne, rfl, hnode, hcontent, hvalue⟩
    · cases halters
    · rw [hvalue] at halters
      cases halters
    · rw [hvalue] at halters
      cases halters
    · have hread : Reads left node rest := readItem_read (readers_faithful levels) left_ne hnode
      have hleft := hread.eq_append
      have hshort := hread.length_lt
      have hrest := (readContent_reads (readers_faithful levels) opened _ _ _ (by omega)
        hcontent).1.eq_append
      rw [hvalue] at halters hsteps ⊢
      cases halters with
      | @head _ _ node' _ first =>
        have hsource := List.length_pos_iff.2 (source_ne_of_alters hr first)
        simp only [nodesSource, List.append_assoc, List.length_append] at hsteps ⊢
        obtain ⟨steps'', rfl⟩ : ∃ steps'', steps' = steps'' + 1 := ⟨steps' - 1, by omega⟩
        have hsame := sameEnd_of_readContent earlier rest _ (by omega) hcontent
        have hcontent' := readContent_local hlocal _ earlier rest _ (by omega) hcontent taken.left
          hsame steps'' (by simp only [List.length_append]; omega)
        rw [hleft] at hnode
        rw [← hrest] at hcontent' ⊢
        exact readContent_cons
          (List.append_ne_nil_of_left_ne_nil (source_ne_of_alters hr first) _)
          (readItem_alters hlocal hinner hr first hnode) hcontent'
      | @tail _ _ _ nodes' apart others =>
        have hsource := List.length_pos_iff.2 hread.source_ne
        simp only [nodesSource, List.append_assoc, List.length_append] at hsteps ⊢
        obtain ⟨steps'', rfl⟩ : ∃ steps'', steps' = steps'' + 1 := ⟨steps' - 1, by omega⟩
        have hcontent' := ih earlier (Nat.lt_succ_self _) rest ⟨content, taken.left⟩ (by omega)
          hcontent _ nodes' others steps'' (by simp only [List.length_append]; omega)
        refine readContent_cons (List.append_ne_nil_of_left_ne_nil hread.source_ne _) ?_ hcontent'
        rw [hleft] at hnode
        refine readItem_local hlocal hread.source_ne hnode ?_ ?_
        · rintro run rfl
          exact textEnds_of_alters (by omega) (textEnds_of_readItem hlocal hnode) hcontent others
            (fun hkind => apart hkind run rfl) _
        · -- nothing could be altered behind a tag that was left open
          intro hopen
          have hended := (readItem_node (readers_tidy levels) (hleft ▸ left_ne) hnode).2 hopen
          have hnodes := (readContent_tidy (readers_tidy levels) opened _ _ _ (by omega)
            hcontent).2.1 hended
          simp only at hnodes
          rw [hnodes] at others
          cases others

/-! ## Altered tags -/

/-- A tag that was left open meets its own end. -/
theorem sameEnd_of_readTag {left rest : Text} {node : Node}
    (h : readTag (readers levels) opened left = .ok ⟨node, rest⟩)
    (hopen : node.isUnclosed = true) : SameEnd rest rest := by
  obtain ⟨name, behind, content, hcontent, hclosing⟩ := exists_content_of_isUnclosed h hopen
  exact sameEnd_of_readContent _ _ _ (Nat.le_refl _) hcontent hclosing

theorem Behind.alters (hinner : (readers levels).Rereads) {r : Revision} (hr : Readable r)
    {opening : OpenTag} {behind rest : Text} {children children' : List Node}
    {closing : Option Text} {position : Nat} (markup : isRaw opening.name = false)
    (inside : AltersAmong r position children children')
    (h : Behind (readers levels) opened opening behind children closing rest) :
    Behind (readers levels) opened opening
      (nodesSource children' ++ (closingSource closing ++ rest)) children' closing rest := by
  cases h with
  | nothing => cases inside
  | raw _ kind => exact absurd (markup.symm.trans kind) Bool.false_ne_true
  | content opens kind call =>
    exact .content opens kind (readContent_alters hinner hr _ _ _ (Nat.le_refl _) call position
      children' inside _ (Nat.le_refl _))

/-- A tag that was altered is read as it was altered. -/
theorem readTag_alters (hinner : (readers levels).Rereads) {r : Revision} (hr : Readable r)
    {position : Nat} {node node' : Node} {rest : Text} (halters : Alters r position node node')
    (h : readTag (readers levels) opened (node.source ++ rest) = .ok ⟨node, rest⟩) :
    readTag (readers levels) opened (node'.source ++ rest) = .ok ⟨node', rest⟩ := by
  have hlocal := readers_local levels
  have hfaithful := readers_faithful levels
  cases halters with
  | text => cases readTag_isTag h
  | quoted before after q parts_eq _ proper =>
    -- the tag has another value between its quotes, and the same content
    have halike := alike_parts before after q proper
    rw [← parts_eq] at halike
    exact readTag_alike hlocal h halike (sameEnd_of_readTag h)
  | child markup inside =>
    -- the opening tag is the same, and the content is altered
    obtain ⟨behind, hfragment, hopening, hbehind⟩ := of_readTag_tag h
    exact readTag_of_behind hlocal hfragment hopening (List.forall₂_same.2 fun part _ => .same part)
      (hbehind.alters hinner hr markup inside)
  | @fragment _ children children' closing inside =>
    have hsource (children : List Node) : (Node.fragment children closing).source ++ rest =
        .char '<' :: .char '>' :: (nodesSource children ++ (closingSource closing ++ rest)) := by
      simp [Node.source]
    rw [hsource] at h ⊢
    obtain ⟨⟨content, behind⟩, hcontent, h⟩ := exists_of_bind_eq_ok h
    cases h
    exact readTag_fragment (readContent_alters hinner hr _ _ _ (Nat.le_refl _) hcontent _ children'
      inside _ (Nat.le_refl _))

/-- However many levels of nesting they may go down, the readers read altered tags again. -/
theorem readers_rereads (levels : Nat) : (readers levels).Rereads := by
  induction levels with
  | zero => exact ⟨fun _ _ h => by cases h⟩
  | succ levels ih => exact ⟨fun hr halters h => readTag_alters ih hr halters h⟩

end VisibleText.Markup
