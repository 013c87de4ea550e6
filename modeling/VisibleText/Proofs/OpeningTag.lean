import Mathlib.Data.List.Basic
import VisibleText.Document.Layout
import VisibleText.Proofs.Reading

/-!
# What an opening tag is made of

An opening tag that was read is made of parts that say more than how they are written: blanks
are blank, names hold neither blanks nor signs of the markup, and a value between quotes does
not hold its own quote (`OpenTag.Proper`).

The document of a page knows where the name of an attribute stands and forgets where its value
does. A quoted attribute remembers both (`QuotedAttribute.valueStart`), and the quoted attributes
of a tag are those of its attributes that are written between quotes
(`filter_quoted_attributesAt`).
-/

set_option autoImplicit false

namespace VisibleText.Markup

open VisibleText.Text (after? cutAt?)

/-! ## Proper parts -/

/-- A value between quotes does not hold the quote that it stands between. -/
def Literal.Proper : Literal → Prop
  | .quoted quote value => quote.mark ∉ value
  | _ => True

/-- Only blanks stand around the equals sign of an attribute, and its value is proper. -/
structure Assignment.Proper (a : Assignment) : Prop where
  blankBefore : a.blankBefore.isBlank = true
  blankAfter : a.blankAfter.isBlank = true
  literal : a.literal.Proper

/-- What the reader of an opening tag says of its parts. -/
def TagPart.Proper : TagPart → Prop
  | .blank blanks => blanks.isBlank = true
  | .slash => True
  | .named name assignment =>
    name.all isAttributeNamePart = true ∧ ∀ a, assignment = some a → a.Proper
  | .code _ => True

/-- What the reader of an opening tag says of it. -/
structure OpenTag.Proper (t : OpenTag) : Prop where
  name : t.name.all isTagNamePart = true
  parts : ∀ part ∈ t.parts, part.Proper

theorem all_fst_span (p : CodePoint → Bool) (t : Text) : (t.span p).1.all p = true := by
  rw [List.span_eq_takeWhile_dropWhile]
  exact List.all_takeWhile

theorem not_mem_of_cutAt? {m : CodePoint} {t front rest : Text}
    (h : cutAt? [m] t = some (front, rest)) : m ∉ front := by
  induction t generalizing front with
  | nil => cases h
  | cons c t ih =>
    unfold cutAt? at h
    split at h
    · cases h
      simp
    · next hafter =>
      split at h
      · next front' rest' hcut =>
        cases h
        -- the mark does not stand at the first code point, so the cut was made behind it
        have hne : m ≠ c := by
          rintro rfl
          have hsome : after? [m] (m :: t) = some t :=
            List.isPrefixOf?_eq_some_iff_append_eq.2 rfl
          rw [hsome] at hafter
          cases hafter
        simp only [List.mem_cons, not_or]
        exact ⟨hne, ih hcut⟩
      · cases h

theorem not_mem_of_readPast {m : CodePoint} {start left : Text} {fault : Fault}
    {taken : Taken Text} (h : readPast [m] fault start left = .ok taken) : m ∉ taken.value := by
  unfold readPast at h
  split at h
  · next hcut =>
    cases h
    exact not_mem_of_cutAt? hcut
  · cases h

theorem Quote.width_mark (quote : Quote) : quote.mark.width = 1 := by
  cases quote <;> rfl

variable {inner : Readers}

theorem readLiteral_proper {name left : Text} {taken : Taken Literal}
    (h : readLiteral inner name left = .ok taken) : taken.value.Proper := by
  unfold readLiteral at h
  split at h
  · obtain ⟨⟨value, rest⟩, hvalue, h⟩ := exists_of_bind_eq_ok h
    cases h
    exact not_mem_of_readPast hvalue
  · obtain ⟨⟨value, rest⟩, hvalue, h⟩ := exists_of_bind_eq_ok h
    cases h
    exact not_mem_of_readPast hvalue
  · obtain ⟨⟨value, rest⟩, hvalue, h⟩ := exists_of_bind_eq_ok h
    cases h
    trivial
  · obtain ⟨⟨pieces, rest⟩, hpieces, h⟩ := exists_of_bind_eq_ok h
    cases h
    trivial
  · generalize bareValue left = cut at h
    obtain ⟨value, rest⟩ := cut
    simp only at h
    split at h
    · cases h
      trivial
    · cases h
      trivial

theorem readAssignment_proper {tag name left : Text} {taken : Taken (Option Assignment)}
    (h : readAssignment inner tag name left = .ok taken) :
    ∀ a, taken.value = some a → a.Proper := by
  unfold readAssignment at h
  have hbefore := all_fst_span CodePoint.isBlank left
  generalize left.span CodePoint.isBlank = cut at h hbefore
  obtain ⟨blankBefore, rest⟩ := cut
  simp only at h hbefore
  split at h
  · next value =>
    have hafter := all_fst_span CodePoint.isBlank value
    generalize List.span CodePoint.isBlank value = cut at h hafter
    obtain ⟨blankAfter, rest⟩ := cut
    simp only at h hafter
    split at h
    · cases h
    · obtain ⟨⟨literal, rest'⟩, hliteral, h⟩ := exists_of_bind_eq_ok h
      cases h
      intro a ha
      cases ha
      exact ⟨hbefore, hafter, readLiteral_proper hliteral⟩
  · cases h
    intro a ha
    cases ha

theorem readPart_proper {tag left : Text} {taken : Taken TagPart}
    (h : readPart inner tag left = .ok taken) : taken.value.Proper := by
  unfold readPart at h
  split at h
  · cases h
  · cases h
    trivial
  · obtain ⟨⟨pieces, rest⟩, hpieces, h⟩ := exists_of_bind_eq_ok h
    cases h
    trivial
  · next c rest _ _ =>
    split at h
    · have hblank := all_fst_span CodePoint.isBlank (c :: rest)
      cases h
      exact hblank
    · have hname := all_fst_span isAttributeNamePart (c :: rest)
      generalize List.span isAttributeNamePart (c :: rest) = cut at h hname
      obtain ⟨name, rest'⟩ := cut
      simp only at h hname
      split at h
      · cases h
      · obtain ⟨⟨assignment, rest''⟩, hassignment, h⟩ := exists_of_bind_eq_ok h
        cases h
        exact ⟨hname, readAssignment_proper hassignment⟩

theorem readParts_proper (tag : Text) :
    ∀ (steps : Nat) (left : Text) (taken : Taken (Bool × List TagPart)),
      readParts inner tag steps left = .ok taken → ∀ part ∈ taken.value.2, part.Proper := by
  intro steps
  induction steps with
  | zero => intro left taken h; cases h
  | succ steps ih =>
    intro left taken h
    unfold readParts at h
    split at h
    · cases h
      intro part hpart
      cases hpart
    · cases h
      intro part hpart
      cases hpart
    · obtain ⟨⟨first, rest⟩, hfirst, h⟩ := exists_of_bind_eq_ok h
      obtain ⟨⟨⟨selfClosing, parts⟩, rest'⟩, hparts, h⟩ := exists_of_bind_eq_ok h
      cases h
      intro part hpart
      rcases List.mem_cons.1 hpart with rfl | hpart
      · exact readPart_proper hfirst
      · exact ih rest _ hparts part hpart

theorem readOpenTag_proper {left : Text} {taken : Taken OpenTag}
    (h : readOpenTag inner left = .ok taken) : taken.value.Proper := by
  unfold readOpenTag at h
  have hname := all_fst_span isTagNamePart (left.drop 1)
  generalize List.span isTagNamePart (left.drop 1) = cut at h hname
  obtain ⟨name, rest⟩ := cut
  simp only at h hname
  obtain ⟨⟨⟨selfClosing, parts⟩, rest'⟩, hparts, h⟩ := exists_of_map_eq_ok h
  cases h
  exact ⟨hname, readParts_proper _ _ _ _ hparts⟩

/-! ## Opening tags that were read -/

theorem readTag_tag {opened : List Text} {left rest : Text} {opening : OpenTag}
    {children : List Node} {closing : Option Text}
    (h : readTag inner opened left = .ok ⟨.tag opening children closing, rest⟩) :
    ∃ rest', readOpenTag inner left = .ok ⟨opening, rest'⟩ := by
  unfold readTag at h
  split at h
  · obtain ⟨⟨content, rest'⟩, -, h⟩ := exists_of_bind_eq_ok h
    cases h
  · obtain ⟨⟨opening', rest'⟩, hopening, h⟩ := exists_of_bind_eq_ok h
    simp only at h
    refine ⟨rest', ?_⟩
    split at h
    · cases h
      exact hopening
    split at h
    · split at h
      · cases h
      · cases h
        exact hopening
    · obtain ⟨⟨content, rest''⟩, -, h⟩ := exists_of_bind_eq_ok h
      cases h
      exact hopening

/-- The opening tag of a tag that was read is proper. -/
theorem Reads.opening_proper {left rest : Text} {opening : OpenTag} {children : List Node}
    {closing : Option Text} (h : Reads left (.tag opening children closing) rest) :
    opening.Proper := by
  cases h with
  | plain _ plain => cases plain
  | front _ _ _ plain => cases plain
  | tag call _ =>
    obtain ⟨rest', hopening⟩ := readTag_tag call
    exact readOpenTag_proper hopening

end VisibleText.Markup

namespace VisibleText.Document

open VisibleText.Markup (TagPart OpenTag Quote Assignment partsSource)

/-! ## Quoted attributes -/

/-- An attribute whose value stands between quotes, as it was read. -/
structure QuotedAttribute where
  name : Text
  blankBefore : Text
  blankAfter : Text
  quote : Quote
  value : Text
  /-- where its name starts -/
  position : Nat
deriving DecidableEq

namespace QuotedAttribute

/-- What a document says of a quoted attribute. -/
def toAttribute (q : QuotedAttribute) : Attribute := ⟨q.name, q.value, .quoted, q.position⟩

/-- What stands before the value of a quoted attribute, its opening quote included. -/
def head (q : QuotedAttribute) : Text :=
  q.name ++ q.blankBefore ++ .char '=' :: q.blankAfter ++ [q.quote.mark]

/-- The first byte of the value of a quoted attribute, behind the opening quote. -/
def valueStart (q : QuotedAttribute) : Nat := q.position + q.head.width

/-- The opening quote takes the last byte before the value. -/
theorem width_head (q : QuotedAttribute) :
    q.head.width = Text.width (q.name ++ q.blankBefore ++ .char '=' :: q.blankAfter) + 1 := by
  rw [head, Text.width_append, Text.width_cons, Text.width_nil, q.quote.width_mark]

/-- A quoted attribute as it is written. -/
def source (q : QuotedAttribute) : Text := q.head ++ q.value ++ [q.quote.mark]

/-- What the reader of an opening tag says of a quoted attribute. -/
structure Proper (q : QuotedAttribute) : Prop where
  name : q.name.all Markup.isAttributeNamePart = true
  blankBefore : q.blankBefore.isBlank = true
  blankAfter : q.blankAfter.isBlank = true
  value : q.quote.mark ∉ q.value

/-- A quoted attribute as a part of its tag. -/
def part (q : QuotedAttribute) : TagPart :=
  .named q.name (some ⟨q.blankBefore, q.blankAfter, .quoted q.quote q.value⟩)

theorem source_part (q : QuotedAttribute) : q.part.source = q.source := by
  simp [part, TagPart.source, Assignment.source, Markup.Literal.source, source, head]

theorem proper_of_part {q : QuotedAttribute} (h : q.part.Proper) : q.Proper := by
  obtain ⟨hname, hassignment⟩ := h
  obtain ⟨hbefore, hafter, hvalue⟩ := hassignment _ rfl
  exact ⟨hname, hbefore, hafter, hvalue⟩

end QuotedAttribute

/-- The quoted attribute that a part of a tag is, when the part stands at a position. -/
def quotedAt? (position : Nat) : TagPart → Option QuotedAttribute
  | .named name (some ⟨blankBefore, blankAfter, .quoted quote value⟩) =>
    some ⟨name, blankBefore, blankAfter, quote, value, position⟩
  | _ => none

/-- The quoted attributes among the parts of a tag, when the parts stand at a position. -/
def quotedAttributesAt (position : Nat) : List TagPart → List QuotedAttribute
  | [] => []
  | part :: parts =>
    (quotedAt? position part).toList ++ quotedAttributesAt (position + part.source.width) parts

/-- Where the parts of an opening tag start. -/
def partsPosition (position : Nat) (opening : OpenTag) : Nat := position + 1 + opening.name.width

theorem quotedAt?_eq_some {position : Nat} {part : TagPart} {q : QuotedAttribute}
    (h : quotedAt? position part = some q) : part = q.part ∧ q.position = position := by
  unfold quotedAt? at h
  split at h
  · cases h
    exact ⟨rfl, rfl⟩
  · cases h

theorem filter_quoted_attributeAt? (position : Nat) (part : TagPart) :
    (attributeAt? position part).toList.filter (fun a => a.kind = .quoted) =
      (quotedAt? position part).toList.map QuotedAttribute.toAttribute := by
  cases part with
  | blank | slash => rfl
  | code value =>
    simp only [attributeAt?, quotedAt?]
    split <;> rfl
  | named name assignment =>
    cases assignment with
    | none => rfl
    | some assignment =>
      obtain ⟨blankBefore, blankAfter, literal⟩ := assignment
      cases literal <;> rfl

/-- The quoted attributes of a tag are its attributes that are written between quotes. -/
theorem filter_quoted_attributesAt (position : Nat) (parts : List TagPart) :
    (attributesAt position parts).filter (fun a => a.kind = .quoted) =
      (quotedAttributesAt position parts).map QuotedAttribute.toAttribute := by
  induction parts generalizing position with
  | nil => rfl
  | cons part parts ih =>
    rw [attributesAt, quotedAttributesAt, List.filter_append, List.map_append, ih,
      filter_quoted_attributeAt?]

/-- A quoted attribute stands among the parts of its tag at its position. -/
theorem exists_of_mem_quotedAttributesAt {position : Nat} {parts : List TagPart}
    {q : QuotedAttribute} (h : q ∈ quotedAttributesAt position parts) :
    ∃ before after, parts = before ++ q.part :: after ∧
      q.position = position + (partsSource before).width := by
  induction parts generalizing position with
  | nil => cases h
  | cons part parts ih =>
    rcases List.mem_append.1 h with h | h
    · obtain ⟨rfl, hposition⟩ := quotedAt?_eq_some (Option.mem_toList.1 h)
      exact ⟨[], parts, rfl, by rw [hposition]; rfl⟩
    · obtain ⟨before, after, rfl, hposition⟩ := ih h
      refine ⟨part :: before, after, rfl, ?_⟩
      rw [hposition, partsSource, partsSource, List.flatMap_cons, Text.width_append,
        Nat.add_assoc]

end VisibleText.Document
