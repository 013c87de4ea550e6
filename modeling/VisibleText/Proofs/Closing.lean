import VisibleText.Proofs.Reading

/-!
# What ends a tag

A tag ends with its closing tag, or it is left open: then the closing tag of another one, or the
end of the page, follows its content. Neither can be read as a node, so nothing stands behind a
tag that was left open among the nodes around it.

The nodes of a page are tidy (`nodesTidy_of_readPage`): text is not empty, an element that cannot
have content has none, and of nodes that stand side by side only the last one was left open.
-/

set_option autoImplicit false

namespace VisibleText.Markup

/-! ## Tidy nodes -/

/-- Whether an opening tag opens nothing: it closes itself, or its element has no content. -/
def OpenTag.opensNothing (t : OpenTag) : Bool := t.selfClosing || isVoid t.name

/-- Whether a tag was left open. -/
def Node.isUnclosed : Node → Bool
  | .tag opening _ none => !opening.opensNothing
  | .fragment _ none => true
  | _ => false

mutual

/-- What the readers say of a node outside expressions and of the nodes in it. -/
def Node.Tidy : Node → Prop
  | .text value => value ≠ []
  | .tag opening children _ => (opening.opensNothing = true → children = []) ∧ NodesTidy children
  | .fragment children _ => NodesTidy children
  | _ => True

/-- Tidy nodes of which only the last one was left open. -/
def NodesTidy : List Node → Prop
  | [] => True
  | node :: nodes => node.Tidy ∧ (node.isUnclosed = true → nodes = []) ∧ NodesTidy nodes

end

theorem NodesTidy.append {before after : List Node} (hbefore : NodesTidy before)
    (hclosed : ∀ node ∈ before, node.isUnclosed = false) (hafter : NodesTidy after) :
    NodesTidy (before ++ after) := by
  induction before with
  | nil => exact hafter
  | cons node before ih =>
    obtain ⟨hnode, -, hbefore⟩ := hbefore
    refine ⟨hnode, fun hopen => ?_, ih hbefore fun n hn => hclosed n (.tail _ hn)⟩
    rw [hclosed node (.head _)] at hopen
    cases hopen

/-! ## Ends of content -/

/-- No node can follow: the page ends, or a closing tag stands next. -/
def Ended (left : Text) : Prop := left = [] ∨ (text "</").isPrefixOf left = true

/-- Readers for what is nested whose tags are tidy, with no node behind a tag left open. -/
structure Readers.Tidy (inner : Readers) : Prop where
  tag {opened : List Text} {left : Text} {taken : Taken Node}
    (h : inner.tag opened left = .ok taken) :
    taken.value.Tidy ∧ (taken.value.isUnclosed = true → Ended taken.left)

variable {inner : Readers} {opened : List Text} {left rest : Text}

theorem readClosingTag_item {taken : Taken Item} (h : readClosingTag opened left = .ok taken) :
    (∀ node, taken.value ≠ .node node) ∧ (taken.value = .closingOuter → taken.left = left) := by
  obtain ⟨⟨inside, rest⟩, -, h⟩ := exists_of_bind_eq_ok h
  simp only at h
  split at h
  · cases h
    exact ⟨fun node hnode => (nomatch hnode), fun houter => nomatch houter⟩
  split at h
  · cases h
    exact ⟨fun node hnode => (nomatch hnode), fun _ => rfl⟩
  · cases h

theorem readItem_of_closing {taken : Taken Item} (hclose : (text "</").isPrefixOf left = true)
    (h : readItem inner opened left = .ok taken) : readClosingTag opened left = .ok taken := by
  obtain ⟨body, rfl⟩ : ∃ body, left = .char '<' :: .char '/' :: body :=
    ⟨_, eq_append_of_isPrefixOf hclose⟩
  exact h

/-- A node that is read is tidy, and if it was left open, no node can follow. -/
theorem readItem_node (hinner : inner.Tidy) {node : Node} (hleft : left ≠ [])
    (h : readItem inner opened left = .ok ⟨.node node, rest⟩) :
    node.Tidy ∧ (node.isUnclosed = true → Ended rest) := by
  unfold readItem at h
  -- the cases are those of the reader: comment, doctype, closing tag, tag, expression, text
  split at h
  · obtain ⟨⟨value, rest'⟩, -, h⟩ := exists_of_bind_eq_ok h
    cases h
    exact ⟨trivial, fun hopen => nomatch hopen⟩
  split at h
  · obtain ⟨⟨value, rest'⟩, -, h⟩ := exists_of_bind_eq_ok h
    cases h
    exact ⟨trivial, fun hopen => nomatch hopen⟩
  split at h
  · exact absurd rfl ((readClosingTag_item h).1 node)
  split at h
  · obtain ⟨⟨node', rest'⟩, hnode, h⟩ := exists_of_bind_eq_ok h
    cases h
    exact hinner.tag hnode
  split at h
  · obtain ⟨⟨pieces, rest'⟩, -, h⟩ := exists_of_bind_eq_ok h
    cases h
    exact ⟨trivial, fun hopen => nomatch hopen⟩
  · cases h
    exact ⟨textRun_ne_nil hleft, fun hopen => nomatch hopen⟩

theorem readItem_closingOuter (h : readItem inner opened left = .ok ⟨.closingOuter, rest⟩) :
    rest = left ∧ (text "</").isPrefixOf left = true := by
  unfold readItem at h
  split at h
  · obtain ⟨⟨value, rest'⟩, -, h⟩ := exists_of_bind_eq_ok h
    cases h
  split at h
  · obtain ⟨⟨value, rest'⟩, -, h⟩ := exists_of_bind_eq_ok h
    cases h
  split at h
  · next hclose => exact ⟨(readClosingTag_item h).2 rfl, hclose⟩
  split at h
  · obtain ⟨⟨node', rest'⟩, -, h⟩ := exists_of_bind_eq_ok h
    cases h
  split at h
  · obtain ⟨⟨pieces, rest'⟩, -, h⟩ := exists_of_bind_eq_ok h
    cases h
  · cases h

/-- Content is tidy; it has no nodes where none can follow, and without a closing tag it ends
where no node can follow. -/
theorem readContent_tidy {levels : Nat} (hinner : (readers levels).Tidy) (opened : List Text) :
    ∀ (steps : Nat) (left : Text) (taken : Taken Content), left.length ≤ steps →
      readContent (readers levels) opened steps left = .ok taken →
        NodesTidy taken.value.nodes ∧ (Ended left → taken.value.nodes = []) ∧
          (taken.value.closing = none → Ended taken.left) := by
  intro steps
  induction steps with
  | zero =>
    intro left taken hlength h
    obtain rfl := List.length_eq_zero_iff.1 (Nat.le_zero.1 hlength)
    cases h
    exact ⟨trivial, fun _ => rfl, fun _ => .inl rfl⟩
  | succ steps ih =>
    intro left taken hlength h
    unfold readContent at h
    split at h
    · cases h
      exact ⟨trivial, fun _ => rfl, fun _ => .inl rfl⟩
    · next hempty =>
      have hleft : left ≠ [] := by simpa using hempty
      obtain ⟨⟨item, rest⟩, hitem, h⟩ := exists_of_bind_eq_ok h
      cases item with
      | closing inside =>
        cases h
        refine ⟨trivial, fun _ => rfl, fun hnone => ?_⟩
        cases hnone
      | closingOuter =>
        cases h
        obtain ⟨rfl, hclose⟩ := readItem_closingOuter hitem
        exact ⟨trivial, fun _ => rfl, fun _ => .inr hclose⟩
      | node node =>
        obtain ⟨⟨content, rest'⟩, hcontent, h⟩ := exists_of_bind_eq_ok h
        cases h
        have hshort : rest.length < left.length :=
          (show Reads left node rest from
            readItem_read (readers_faithful levels) hleft hitem).length_lt
        obtain ⟨hnode, hopen⟩ := readItem_node hinner hleft hitem
        obtain ⟨htidy, hnone, hend⟩ := ih rest _ (by omega) hcontent
        refine ⟨⟨hnode, fun h => hnone (hopen h), htidy⟩, ?_, hend⟩
        rintro (hnil | hclose)
        · exact absurd hnil hleft
        · exact absurd rfl ((readClosingTag_item (readItem_of_closing hclose hitem)).1 node)

theorem readTag_tidy {levels : Nat} (hinner : (readers levels).Tidy) {taken : Taken Node}
    (h : readTag (readers levels) opened left = .ok taken) :
    taken.value.Tidy ∧ (taken.value.isUnclosed = true → Ended taken.left) := by
  unfold readTag at h
  split at h
  · obtain ⟨⟨content, rest⟩, hcontent, h⟩ := exists_of_bind_eq_ok h
    cases h
    obtain ⟨htidy, -, hend⟩ := readContent_tidy hinner _ _ _ _ (Nat.le_refl _) hcontent
    refine ⟨htidy, fun hopen => hend ?_⟩
    cases hclosing : content.closing with
    | none => rfl
    | some closing =>
      rw [hclosing] at hopen
      cases hopen
  · obtain ⟨⟨opening, rest⟩, -, h⟩ := exists_of_bind_eq_ok h
    simp only at h
    split at h
    · next hnothing =>
      cases h
      refine ⟨⟨fun _ => rfl, trivial⟩, fun hopen => ?_⟩
      rw [Node.isUnclosed, OpenTag.opensNothing, hnothing] at hopen
      cases hopen
    · next hnothing =>
      have hopens {children : List Node} : opening.opensNothing = true → children = [] :=
        fun hopens => absurd hopens hnothing
      split at h
      · split at h
        · cases h
        · next raw closing rest' hraw =>
          cases h
          refine ⟨⟨hopens, ?_⟩, fun hopen => nomatch hopen⟩
          split
          · trivial
          · next hempty => exact ⟨by simpa [Node.Tidy] using hempty, fun _ => rfl, trivial⟩
      · obtain ⟨⟨content, rest'⟩, hcontent, h⟩ := exists_of_bind_eq_ok h
        cases h
        obtain ⟨htidy, -, hend⟩ := readContent_tidy hinner _ _ _ _ (Nat.le_refl _) hcontent
        refine ⟨⟨hopens, htidy⟩, fun hopen => hend ?_⟩
        cases hclosing : content.closing with
        | none => rfl
        | some closing =>
          rw [hclosing] at hopen
          cases hopen

theorem readers_tidy (levels : Nat) : (readers levels).Tidy := by
  induction levels with
  | zero => exact ⟨fun h => nomatch h⟩
  | succ levels ih => exact ⟨readTag_tidy ih⟩

/-! ## Pages -/

/-- The nodes of a page are tidy. -/
theorem nodesTidy_of_readPage {page : Text} {nodes : List Node} (h : readPage page = .ok nodes) :
    NodesTidy nodes := by
  obtain ⟨⟨front, rest⟩, hfront, h⟩ := exists_of_bind_eq_ok h
  obtain ⟨⟨content, rest'⟩, hcontent, h⟩ := exists_of_bind_eq_ok h
  cases h
  have hnodes :=
    (readContent_tidy (readers_tidy nestingLimit) [] _ _ _ (Nat.le_refl _) hcontent).1
  unfold readFrontmatter at hfront
  generalize page.span CodePoint.isBlank = cut at hfront
  obtain ⟨blanks, behind⟩ := cut
  simp only at hfront
  split at hfront
  · cases hfront
    exact hnodes
  · split at hfront
    · cases hfront
    · -- blanks before the frontmatter are text of their own
      cases hfront
      refine NodesTidy.append ?_ ?_ hnodes
      · split
        · exact ⟨trivial, fun _ => rfl, trivial⟩
        · next hempty =>
          exact ⟨by simpa [Node.Tidy] using hempty, fun hopen => (nomatch hopen),
            trivial, fun _ => rfl, trivial⟩
      · intro node hnode
        split at hnode
        · obtain rfl := List.mem_singleton.1 hnode
          rfl
        · rcases List.mem_cons.1 hnode with rfl | hnode
          · rfl
          · obtain rfl := List.mem_singleton.1 hnode
            rfl

end VisibleText.Markup
