import VisibleText.Proofs.Coverage
import VisibleText.Proofs.OpeningTag
import VisibleText.Proofs.TagLocality

/-!
# Documents are verbatim

Every node and every attribute of a document says what the page reads at its position. How a node
and an attribute are written is given here without the readers (`Node.WrittenAs`,
`Attribute.WrittenAs`), together with what may stand behind them where nothing else shows where they
end; and both stand in the page at the byte offset that they have for their position
(`parse_verbatim`).

Positions count bytes, of which a surrogate that stands alone takes three.
-/

set_option autoImplicit false

namespace VisibleText.Markup

variable {inner : Readers}

theorem bareValue_plain (t : Text) :
    ∀ c ∈ (bareValue t).1, c.isBlank = false ∧ c ≠ .char '>' := by
  induction t with
  | nil => intro c hc; cases hc
  | cons d t ih =>
    intro c hc
    unfold bareValue at hc
    split at hc
    · cases hc
    · next hgoes =>
      simp only [Bool.or_eq_true, decide_eq_true_eq, not_or] at hgoes
      rcases List.mem_cons.1 hc with rfl | hc
      · exact ⟨Bool.eq_false_iff.2 hgoes.1.1, hgoes.1.2⟩
      · exact ih c hc

/-- What ends a value without quotes: the page, a blank, or the end of the tag. -/
def EndsBareValue (left : Text) : Prop :=
  left = [] ∨ (∃ c t, left = c :: t ∧ c.isBlank = true) ∨ (∃ t, left = .char '>' :: t) ∨
    ∃ t, left = .char '/' :: .char '>' :: t

theorem endsBareValue_bareValue (t : Text) : EndsBareValue (bareValue t).2 := by
  induction t with
  | nil => exact .inl rfl
  | cons c t ih =>
    unfold bareValue
    split
    · next hstop =>
      simp only [Bool.or_eq_true, Bool.and_eq_true, decide_eq_true_eq] at hstop
      rcases hstop with (hblank | rfl) | ⟨rfl, hhead⟩
      · exact .inr (.inl ⟨c, t, rfl, hblank⟩)
      · exact .inr (.inr (.inl ⟨t, rfl⟩))
      · obtain ⟨t, rfl⟩ := List.head?_eq_some_iff.1 hhead
        exact .inr (.inr (.inr ⟨t, rfl⟩))
    · exact ih

/-- Every part of an opening tag was read where the part before it ended. -/
theorem exists_readPart_of_eq (hinner : inner.Faithful) {tag : Text} :
    ∀ (steps : Nat) (left : Text) (taken : Taken (Bool × List TagPart)),
      readParts inner tag steps left = .ok taken →
        ∀ (before : List TagPart) (part : TagPart) (after : List TagPart),
          taken.value.2 = before ++ part :: after →
            ∃ rest, left = partsSource before ++ (part.source ++ rest) ∧
              readPart inner tag (part.source ++ rest) = .ok ⟨part, rest⟩ := by
  intro steps
  induction steps with
  | zero => intro left taken h; cases h
  | succ steps ih =>
    intro left taken h before part after hparts
    unfold readParts at h
    split at h
    · cases h
      cases before <;> cases hparts
    · cases h
      cases before <;> cases hparts
    · obtain ⟨⟨first, rest⟩, hfirst, h⟩ := exists_of_bind_eq_ok h
      obtain ⟨⟨⟨selfClosing, parts⟩, rest'⟩, hrest, h⟩ := exists_of_bind_eq_ok h
      cases h
      have hleft := readPart_eq_append hinner hfirst
      simp only at hleft hparts
      cases before with
      | nil =>
        obtain ⟨rfl, rfl⟩ := List.cons.inj hparts
        exact ⟨rest, hleft, hleft ▸ hfirst⟩
      | cons first' before =>
        obtain ⟨rfl, rfl⟩ := List.cons.inj hparts
        obtain ⟨rest'', hrest', hpart⟩ := ih rest _ hrest before part after rfl
        refine ⟨rest'', ?_, hpart⟩
        rw [hleft, hrest', partsSource, partsSource, List.flatMap_cons, List.append_assoc]

/-- The reader of a tag found its name where the tag starts, and its parts behind the name. -/
theorem Reads.exists_parts {left rest : Text} {opening : OpenTag} {children : List Node}
    {closing : Option Text} (h : Reads left (.tag opening children closing) rest) :
    ∃ (levels : Nat) (start : Text) (steps : Nat) (behind rest' : Text),
      left = .char '<' :: opening.name ++ behind ∧
        (∀ c, behind.head? = some c → isTagNamePart c = false) ∧
          readParts (readers levels) start steps behind =
            .ok ⟨(opening.selfClosing, opening.parts), rest'⟩ := by
  have hleft := h.eq_append
  cases h with
  | plain _ plain => cases plain
  | front _ _ _ plain => cases plain
  | @tag levels _ _ body _ _ _ call _ =>
    obtain ⟨rest', hopening⟩ := readTag_tag call
    unfold readOpenTag at hopening
    cases hspan : List.span isTagNamePart ((opening.source ++ body).drop 1) with
    | mk name behind =>
      rw [hspan] at hopening
      obtain ⟨⟨⟨selfClosing, parts⟩, rest''⟩, hparts, hopening⟩ := exists_of_map_eq_ok hopening
      cases hopening
      have happend := span_append isTagNamePart
        ((OpenTag.source ⟨name, parts, selfClosing⟩ ++ body).drop 1)
      rw [hspan] at happend
      refine ⟨levels, _, _, behind, _, ?_, (of_span_eq hspan).2, hparts⟩
      exact congrArg (CodePoint.char '<' :: ·) happend.symm

end VisibleText.Markup

namespace VisibleText.Document

open VisibleText.Markup

/-! ## How attributes are written -/

/-- What may be the name of an attribute. -/
def IsAttributeName (name : Text) : Prop := name ≠ [] ∧ name.all isAttributeNamePart = true

/-- An equals sign between blanks. -/
def IsEquals (t : Text) : Prop :=
  ∃ blankBefore blankAfter : Text, t = blankBefore ++ .char '=' :: blankAfter ∧
    blankBefore.isBlank = true ∧ blankAfter.isBlank = true

/-- An attribute is written as `source` where `after` follows. -/
inductive Attribute.WrittenAs : Attribute → (source after : Text) → Prop
  | quoted {name equals value after : Text} {position : Nat} (quote : Quote)
      (named : IsAttributeName name) (assigned : IsEquals equals) (free : quote.mark ∉ value) :
      WrittenAs ⟨name, value, .quoted, position⟩
        (name ++ equals ++ quote.mark :: value ++ [quote.mark]) after
  | template {name equals value after : Text} {position : Nat} (named : IsAttributeName name)
      (assigned : IsEquals equals) (free : CodePoint.char '`' ∉ value) :
      WrittenAs ⟨name, value, .templateLiteral, position⟩
        (name ++ equals ++ .char '`' :: value ++ [.char '`']) after
  | expression {name equals value after : Text} {position : Nat} (named : IsAttributeName name)
      (assigned : IsEquals equals) :
      WrittenAs ⟨name, value, .expression, position⟩ (name ++ equals ++ braced value) after
  | unquoted {name equals value after : Text} {position : Nat} (named : IsAttributeName name)
      (assigned : IsEquals equals) (value_ne : value ≠ [])
      (unmarked : ∀ c, value.head? = some c → c.isAmong ['"', '\'', '`', '{'] = false)
      (plain : ∀ c ∈ value, c.isBlank = false ∧ c ≠ .char '>') (ends : EndsBareValue after) :
      WrittenAs ⟨name, value, .unquoted, position⟩ (name ++ equals ++ value) after
  /-- without a value, and perhaps without an equals sign -/
  | empty {name after : Text} {position : Nat} (named : IsAttributeName name)
      (ends : ∀ c, after.head? = some c → isAttributeNamePart c = false) :
      WrittenAs ⟨name, [], .empty, position⟩ name after
  /-- three dots between braces, and what they spread -/
  | spread {value spread after : Text} {position : Nat} (dots : value.trim = text "..." ++ spread) :
      WrittenAs ⟨spread.trim, value, .spread, position⟩ (braced value) after
  | shorthand {value after : Text} {position : Nat}
      (dots : (text "...").isPrefixOf value.trim = false) :
      WrittenAs ⟨value.trim, value, .shorthand, position⟩ (braced value) after

section Parts

variable {inner : Readers} {tag rest : Text}

theorem isEquals_of_proper {a : Assignment} (h : a.Proper) :
    IsEquals (a.blankBefore ++ .char '=' :: a.blankAfter) :=
  ⟨_, _, rfl, h.blankBefore, h.blankAfter⟩

theorem not_mem_of_readLiteral_template {name left value : Text}
    (h : readLiteral inner name left = .ok ⟨.template value, rest⟩) :
    CodePoint.char '`' ∉ value := by
  unfold readLiteral at h
  split at h
  · obtain ⟨⟨value', rest'⟩, -, h⟩ := exists_of_bind_eq_ok h
    cases h
  · obtain ⟨⟨value', rest'⟩, -, h⟩ := exists_of_bind_eq_ok h
    cases h
  · obtain ⟨⟨value', rest'⟩, hvalue, h⟩ := exists_of_bind_eq_ok h
    cases h
    exact not_mem_of_readPast hvalue
  · obtain ⟨⟨pieces, rest'⟩, -, h⟩ := exists_of_bind_eq_ok h
    cases h
  · simp only at h
    split at h <;> cases h

/-- Code in the place of an attribute is written between braces. -/
theorem writtenAs_of_code {position : Nat} {value : Text} {a : Attribute}
    (ha : attributeAt? position (.code value) = some a) (after : Text) :
    a.position = position ∧ a.WrittenAs (braced value) after := by
  simp only [attributeAt?] at ha
  split at ha
  · next spread hdots =>
    cases ha
    exact ⟨rfl, .spread (Text.eq_append_of_after? hdots)⟩
  · next hdots =>
    cases ha
    refine ⟨rfl, .shorthand (Bool.eq_false_iff.2 fun hstarts => ?_)⟩
    obtain ⟨spread, hspread⟩ := List.isPrefixOf_iff_prefix.1 hstarts
    rw [Text.after?, List.isPrefixOf?_eq_some_iff_append_eq.2 hspread] at hdots
    cases hdots

/-- An attribute with a value is written as its name, an equals sign and the value. -/
theorem writtenAs_of_literal {position : Nat} {name : Text} {assignment : Assignment}
    {a : Attribute} (named : IsAttributeName name) (hassigned : assignment.Proper)
    (hread : readLiteral inner name (assignment.literal.source ++ rest) =
      .ok ⟨assignment.literal, rest⟩)
    (present : assignment.literal ≠ .missing)
    (ha : attributeAt? position (.named name (some assignment)) = some a) :
    a.position = position ∧
      ∃ source, TagPart.source (.named name (some assignment)) = source ∧
        a.WrittenAs source rest := by
  have hequals := isEquals_of_proper hassigned
  obtain ⟨blankBefore, blankAfter, literal⟩ := assignment
  cases literal with
  | missing => exact absurd rfl present
  | quoted quote value =>
    cases ha
    refine ⟨rfl, _, ?_, .quoted quote named hequals hassigned.literal⟩
    simp [TagPart.source, Assignment.source, Literal.source]
  | template value =>
    cases ha
    refine ⟨rfl, _, ?_, .template named hequals (not_mem_of_readLiteral_template hread)⟩
    simp [TagPart.source, Assignment.source, Literal.source]
  | code value =>
    cases ha
    refine ⟨rfl, _, ?_, .expression named hequals⟩
    simp [TagPart.source, Assignment.source, Literal.source]
  | bare value =>
    cases ha
    obtain ⟨hcut, hvalue⟩ := bareValue_of_readLiteral hread (.inr ⟨value, rfl⟩)
    simp only [Literal.source] at hcut hvalue
    have value_ne : value ≠ [] := by
      rintro rfl
      cases hvalue
    -- what was cut off is plain, and it was cut off where such a value ends
    have hplain := bareValue_plain (value ++ rest)
    have hends := endsBareValue_bareValue (value ++ rest)
    rw [hcut] at hplain hends
    refine ⟨rfl, _, ?_, .unquoted named hequals value_ne (fun c hc => ?_) hplain hends⟩
    · simp [TagPart.source, Assignment.source, Literal.source]
    · obtain ⟨t, rfl⟩ := List.head?_eq_some_iff.1 hc
      exact no_mark_of_readLiteral hread (.inr ⟨_, rfl⟩) c rfl

/-- The attribute that a part of a tag is, is written as the part. -/
theorem writtenAs_of_readPart (hinner : inner.Faithful) {position : Nat} {part : TagPart}
    {a : Attribute} (hread : readPart inner tag (part.source ++ rest) = .ok ⟨part, rest⟩)
    (ha : attributeAt? position part = some a) :
    a.position = position ∧
      ∃ source after, part.source ++ rest = source ++ after ∧ a.WrittenAs source after := by
  have hproper := readPart_proper hread
  cases part with
  | blank | slash => cases ha
  | code value =>
    obtain ⟨hposition, written⟩ := writtenAs_of_code ha rest
    exact ⟨hposition, _, rest, rfl, written⟩
  | named name assignment =>
    obtain ⟨name_ne, behind, hname, hassignment⟩ := of_readPart_named hread
    have named : IsAttributeName name := ⟨name_ne, hproper.1⟩
    have hends := (of_span_eq hname).2
    have hbehind :=
      span_append isAttributeNamePart (TagPart.source (.named name assignment) ++ rest)
    rw [hname] at hbehind
    cases assignment with
    | none =>
      cases ha
      exact ⟨rfl, name, behind, hbehind.symm, .empty named hends⟩
    | some assignment =>
      by_cases hmissing : assignment.literal = .missing
      · -- without a value only the name is the attribute's
        simp only [attributeAt?, hmissing, literalValue, Option.some.injEq] at ha
        cases ha
        exact ⟨rfl, name, behind, hbehind.symm, .empty named hends⟩
      · have hsource := readAssignment_eq_append hinner hassignment
        simp only [Option.map_some, Option.getD_some] at hsource
        rw [hsource] at hassignment
        have hliteral := (of_readAssignment_some hinner hassignment).2.2
        obtain ⟨hposition, source, hsource, written⟩ :=
          writtenAs_of_literal named (hproper.2 _ rfl) hliteral hmissing ha
        exact ⟨hposition, source, rest, by rw [hsource], written⟩

end Parts

/-! ## Where nodes and attributes stand -/

/-- A node is written as `source` where `after` follows, as far as its position says. -/
inductive Node.WrittenAs : Node → (source after : Text) → Prop
  | text {value after : Text} {position : Nat} : WrittenAs (.text value position) value after
  | comment {value after : Text} {position : Nat} :
      WrittenAs (.comment value position)
        (VisibleText.text "<!--" ++ value ++ VisibleText.text "-->") after
  | doctype {inner after : Text} {position : Nat} :
      WrittenAs (.doctype inner.trim position)
        (VisibleText.text "<!" ++ inner ++ VisibleText.text ">") after
  | frontmatter {value after : Text} {position : Nat} :
      WrittenAs (.frontmatter value position) value after
  | expression {children : List Node} {after : Text} {position : Nat} :
      WrittenAs (.expression children position) [.char '{'] after
  | fragment {children : List Node} {after : Text} {position : Nat} :
      WrittenAs (.fragment children position) (VisibleText.text "<>") after
  | tag {opening : Tag} {children : List Node} {after : Text}
      (ends : ∀ c, after.head? = some c → isTagNamePart c = false) :
      WrittenAs (.tag opening children) (.char '<' :: opening.name) after

/-- The attributes of a node. -/
def Node.attributes : Node → List Attribute
  | .tag opening _ => opening.attributes
  | _ => []

/-- A text stands in the page at a byte position, and another one follows it. -/
def StandsAt (page : Text) (position : Nat) (source after : Text) : Prop :=
  ∃ before : Text, page = before ++ (source ++ after) ∧ before.width = position

/-- What a document says of a node is what the page reads at its position, and so are its
attributes. -/
def Node.Verbatim (page : Text) (node : Node) : Prop :=
  (∃ source after, node.WrittenAs source after ∧ StandsAt page node.position source after) ∧
    ∀ a ∈ node.attributes,
      ∃ source after, a.WrittenAs source after ∧ StandsAt page a.position source after

theorem standsAt_of_readFrom {page : Text} {start stop : Nat} {node : Markup.Node}
    (h : ReadFrom page start node stop) :
    StandsAt page (offset page start) node.source (page.drop stop) := by
  refine ⟨page.take start, ?_, rfl⟩
  rw [← h.reads.eq_append, List.take_append_drop]

theorem StandsAt.shorten {page source more after : Text} {position : Nat}
    (h : StandsAt page position (source ++ more) after) :
    StandsAt page position source (more ++ after) := by
  obtain ⟨before, hpage, hposition⟩ := h
  exact ⟨before, by rw [hpage, List.append_assoc], hposition⟩

theorem StandsAt.behind {page source more after : Text} {position : Nat}
    (h : StandsAt page position source (more ++ after)) :
    StandsAt page (position + source.width) more after := by
  obtain ⟨before, hpage, rfl⟩ := h
  exact ⟨before ++ source, by rw [hpage, List.append_assoc], Text.width_append _ _⟩

theorem exists_of_mem_attributesAt {position : Nat} {parts : List TagPart} {a : Attribute}
    (h : a ∈ attributesAt position parts) :
    ∃ before part after, parts = before ++ part :: after ∧
      attributeAt? (position + (partsSource before).width) part = some a := by
  induction parts generalizing position with
  | nil => cases h
  | cons part parts ih =>
    rcases List.mem_append.1 h with h | h
    · exact ⟨[], part, parts, rfl, Option.mem_toList.1 h⟩
    · obtain ⟨before, part', after, rfl, ha⟩ := ih h
      refine ⟨part :: before, part', after, rfl, ?_⟩
      rw [partsSource, List.flatMap_cons, Text.width_append, ← Nat.add_assoc]
      exact ha

theorem verbatim_of_covers {page : Text} {start stop : Nat} {node : Node}
    (h : Covers page start node stop) : node.Verbatim page := by
  cases h with
  | text read => exact ⟨⟨_, _, .text, standsAt_of_readFrom read⟩, fun a ha => nomatch ha⟩
  | comment read => exact ⟨⟨_, _, .comment, standsAt_of_readFrom read⟩, fun a ha => nomatch ha⟩
  | doctype read =>
    have hstands := standsAt_of_readFrom read
    exact ⟨⟨_, _, .doctype, hstands⟩, fun a ha => nomatch ha⟩
  | frontmatter read =>
    exact ⟨⟨_, _, .frontmatter, standsAt_of_readFrom read⟩, fun a ha => nomatch ha⟩
  | expression read =>
    have hstands := standsAt_of_readFrom read
    exact ⟨⟨_, _, .expression, hstands.shorten⟩, fun a ha => nomatch ha⟩
  | @fragment _ _ _ _ nodes closing _ read =>
    have hstands : StandsAt page (offset page start)
        (VisibleText.text "<>" ++ (nodesSource nodes ++ closingSource closing)) _ :=
      standsAt_of_readFrom read
    exact ⟨⟨_, _, .fragment, hstands.shorten⟩, fun a ha => nomatch ha⟩
  | @tag _ _ _ _ opening _ _ _ read =>
    obtain ⟨levels, start', steps, behind, rest, hleft, hends, hparts⟩ := read.reads.exists_parts
    have hstands : StandsAt page (offset page start) (.char '<' :: opening.name) behind :=
      ⟨page.take start, by rw [← hleft, List.take_append_drop], rfl⟩
    refine ⟨⟨_, _, .tag hends, hstands⟩, fun a ha => ?_⟩
    -- an attribute is a part of the tag, and stands behind the name and the parts before it
    obtain ⟨before, part, after, hsplit, ha⟩ := exists_of_mem_attributesAt ha
    obtain ⟨rest', rfl, hpart⟩ :=
      exists_readPart_of_eq (readers_faithful levels) _ _ _ hparts before part after hsplit
    obtain ⟨hposition, source, after', hsource, written⟩ :=
      writtenAs_of_readPart (readers_faithful levels) hpart ha
    refine ⟨source, after', written, ?_⟩
    have hbehind := hstands.behind
    rw [hsource] at hbehind
    have hname : Text.width (.char '<' :: opening.name) = 1 + opening.name.width := rfl
    rw [hposition, Nat.add_assoc (offset page start), ← hname]
    exact hbehind.behind

/-- Whatever a document says of its page stands there: every node and every attribute is written in
the page at the byte offset that is its position. -/
theorem parse_verbatim {page : Text} {d : Document} (h : Document.parse page = .ok d) :
    ∀ node ∈ d.nodes, node.Verbatim page := by
  intro node hnode
  obtain ⟨start, stop, covers⟩ := (tiles_of_parse h).exists_of_mem_walkAll hnode
  exact verbatim_of_covers covers

/-- Every kind of attribute, behind a surrogate that counts three bytes. -/
theorem parse_verbatim_of_attributes : ∃ (page : Text) (d : Document),
    page = [.surrogate 0] ++ text "<!--c--><!D a><A b=\"1\" c = '2' d=\x7b3\x7d e=`4` f=5 g" ++
      text " \x7b...h\x7d \x7bi\x7d>\x7bj\x7d<></></A>" ∧
    Document.parse page = .ok d ∧ d.nodes.map Node.position = [0, 3, 11, 17, 63, 66] ∧
      (d.nodes.flatMap Node.attributes).map Attribute.position =
        [20, 26, 34, 40, 46, 50, 52, 59] ∧
      ∀ node ∈ d.nodes, node.Verbatim page := by
  have hrun : ((Document.parse ([.surrogate 0] ++
        text "<!--c--><!D a><A b=\"1\" c = '2' d=\x7b3\x7d e=`4` f=5 g" ++
        text " \x7b...h\x7d \x7bi\x7d>\x7bj\x7d<></></A>")).map
      fun d => (d.nodes.map Node.position,
        (d.nodes.flatMap Node.attributes).map Attribute.position)).toOption =
      some ([0, 3, 11, 17, 63, 66], [20, 26, 34, 40, 46, 50, 52, 59]) := by
    decide +kernel
  obtain ⟨d, hparse, hpositions⟩ := Markup.exists_of_map_eq_ok (Markup.eq_ok_of_toOption hrun)
  obtain ⟨hnodes, hattributes⟩ := Prod.mk.inj hpositions
  exact ⟨_, d, rfl, hparse, hnodes, hattributes, parse_verbatim hparse⟩

end VisibleText.Document
