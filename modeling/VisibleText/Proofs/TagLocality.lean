import Mathlib.Data.List.Forall2
import VisibleText.Proofs.Lookahead
import VisibleText.Proofs.OpeningTag

/-!
# How far an opening tag looks ahead

The parts of an opening tag are read one after the other, and where one ends is seen in what
follows it: a name is only a name if no equals sign stands behind the blanks after it, and a value
without quotes ends before a slash only if `>` stands behind the slash. No part looks further than
to the first code point that is neither a blank nor a slash (`readPart_local`).

An opening tag is read up to its `>` and no further, and it is read the same with another value
between the quotes of one of its attributes (`readOpenTag_alike`).
-/

set_option autoImplicit false

namespace VisibleText.Markup

open VisibleText.Text (after? cutAt?)

variable {inner : Readers}

/-! ## Values -/

/-- A code point behind which no part of an opening tag looks. -/
def EndsPart (c : CodePoint) : Prop := c.isBlank = false ∧ c ≠ .char '/'

theorem cutAt?_of_not_mem {m : CodePoint} {front : Text} (hfront : m ∉ front) (rest : Text) :
    cutAt? [m] (front ++ m :: rest) = some (front, rest) := by
  induction front with
  | nil =>
    have hfound : after? [m] (m :: rest) = some rest := after?_eq_some_iff.2 rfl
    rw [List.nil_append, cutAt?, hfound]
  | cons c front ih =>
    obtain ⟨hne, hfront⟩ := not_or.1 (List.mem_cons.not.1 hfront)
    have hnone : after? [m] (c :: (front ++ m :: rest)) = none := by
      refine Option.eq_none_iff_forall_ne_some.2 fun found hfound => hne ?_
      rw [after?_eq_some_iff] at hfound
      exact (List.cons.inj hfound).1
    rw [List.cons_append, cutAt?, hnone, ih hfront]

/-- A value between quotes is read up to the quote. -/
theorem readLiteral_quoted (name : Text) {quote : Quote} {value : Text}
    (hvalue : quote.mark ∉ value) (rest : Text) :
    readLiteral inner name ((Literal.quoted quote value).source ++ rest) =
      .ok ⟨.quoted quote value, rest⟩ := by
  have hcut := cutAt?_of_not_mem hvalue rest
  have hsource : (Literal.quoted quote value).source ++ rest =
      quote.mark :: (value ++ quote.mark :: rest) := by
    simp [Literal.source]
  rw [hsource]
  cases quote with
  | double | single =>
    simp only [Quote.mark] at hcut ⊢
    simp only [readLiteral, readPast, hcut]
    rfl

theorem bareValue_local {value rest rest' : Text}
    (h : bareValue (value ++ rest) = (value, rest)) (agree : Agree EndsPart rest rest') :
    bareValue (value ++ rest') = (value, rest') := by
  induction value with
  | nil =>
    obtain ⟨c, rest, rfl⟩ := List.exists_cons_of_ne_nil agree.ne_nil
    obtain ⟨d, rest', rfl⟩ := List.exists_cons_of_ne_nil agree.symm.ne_nil
    obtain rfl : d = c := by simpa using agree.head?_eq
    simp only [List.nil_append, bareValue] at h ⊢
    split at h
    · next hstop =>
      have hstop' : (d.isBlank || d = .char '>' ||
          (d = .char '/' && rest'.head? = some (.char '>'))) = true := by
        by_cases hslash : d = .char '/'
        · rwa [(agree.tail fun hd => hd.2 hslash).head?_eq]
        · simpa [hslash] using hstop
      rw [if_pos hstop']
    · cases h
  | cons c value ih =>
    simp only [List.cons_append, bareValue] at h ⊢
    split at h
    · cases h
    · next hgoes =>
      rw [Prod.mk.injEq] at h
      have hread : bareValue (value ++ rest) = (value, rest) :=
        Prod.ext (List.cons.inj h.1).2 h.2
      rw [head?_append_congr value agree.head?_eq, if_neg hgoes, ih hread]

/-- What starts with no mark of a value is a value without quotes, or none. -/
theorem readLiteral_of_no_mark (name : Text) {t : Text}
    (hmark : ∀ c, t.head? = some c → c.isAmong ['"', '\'', '`', '{'] = false) :
    readLiteral inner name t =
      if (bareValue t).1.isEmpty then .ok ⟨.missing, t⟩
      else .ok ⟨.bare (bareValue t).1, (bareValue t).2⟩ := by
  unfold readLiteral
  split
  · cases hmark _ rfl
  · cases hmark _ rfl
  · cases hmark _ rfl
  · cases hmark _ rfl
  · rfl

theorem no_mark_of_readLiteral {name left : Text} {taken : Taken Literal}
    (h : readLiteral inner name left = .ok taken)
    (hbare : taken.value = .missing ∨ ∃ value, taken.value = .bare value) :
    ∀ c, left.head? = some c → c.isAmong ['"', '\'', '`', '{'] = false := by
  intro c hc
  obtain ⟨rest, rfl⟩ := List.head?_eq_some_iff.1 hc
  by_contra hmark
  rw [Bool.not_eq_false] at hmark
  have hcases : c = CodePoint.char '"' ∨ c = .char '\'' ∨ c = .char '`' ∨ c = .char '{' := by
    cases c with
    | surrogate => cases hmark
    | char c => simpa [CodePoint.isAmong] using hmark
  -- each of the marks starts a value of its own kind
  rcases hcases with rfl | rfl | rfl | rfl <;>
  · obtain ⟨_, -, h⟩ := exists_of_bind_eq_ok h
    cases h
    rcases hbare with hbare | ⟨value, hbare⟩ <;> cases hbare

/-- A value without quotes, or none, is what the cut gives. -/
theorem bareValue_of_readLiteral {name rest : Text} {literal : Literal}
    (h : readLiteral inner name (literal.source ++ rest) = .ok ⟨literal, rest⟩)
    (hbare : literal = .missing ∨ ∃ value, literal = .bare value) :
    bareValue (literal.source ++ rest) = (literal.source, rest) ∧
      literal = if literal.source.isEmpty then .missing else .bare literal.source := by
  rw [readLiteral_of_no_mark name (no_mark_of_readLiteral h hbare)] at h
  have happend := bareValue_append (literal.source ++ rest)
  split at h
  · next hempty =>
    simp only [Except.ok.injEq, Taken.mk.injEq] at h
    rw [← h.1] at happend hempty ⊢
    rw [List.isEmpty_iff.1 hempty, List.nil_append] at happend
    exact ⟨Prod.ext (List.isEmpty_iff.1 hempty) happend, rfl⟩
  · next hempty =>
    simp only [Except.ok.injEq, Taken.mk.injEq] at h
    have hsource : (bareValue (literal.source ++ rest)).1 = literal.source :=
      congrArg Literal.source h.1
    rw [hsource] at hempty
    rw [if_neg hempty]
    exact ⟨Prod.ext hsource h.2, by rw [← hsource]; exact h.1.symm⟩

theorem readLiteral_bare_local {name rest rest' : Text} {literal : Literal}
    (h : readLiteral inner name (literal.source ++ rest) = .ok ⟨literal, rest⟩)
    (hbare : literal = .missing ∨ ∃ value, literal = .bare value)
    (agree : Agree EndsPart rest rest') :
    readLiteral inner name (literal.source ++ rest') = .ok ⟨literal, rest'⟩ := by
  obtain ⟨hcut, hliteral⟩ := bareValue_of_readLiteral h hbare
  have hmark := no_mark_of_readLiteral h hbare
  rw [← head?_append_congr literal.source agree.head?_eq] at hmark
  rw [readLiteral_of_no_mark name hmark, bareValue_local hcut agree]
  split at hliteral
  · next hempty =>
    have hsource := List.isEmpty_iff.1 hempty
    simp only [hempty, if_true]
    rw [hsource, ← hliteral]
    rfl
  · next hempty =>
    simp only [if_neg hempty]
    rw [← hliteral]

theorem readLiteral_local (hinner : inner.Local) {name : Text} {literal : Literal}
    {rest rest' : Text} (h : readLiteral inner name (literal.source ++ rest) = .ok ⟨literal, rest⟩)
    (agree : Agree EndsPart rest rest') :
    readLiteral inner name (literal.source ++ rest') = .ok ⟨literal, rest'⟩ := by
  cases literal with
  | quoted quote value => exact readLiteral_quoted name (readLiteral_proper h) rest'
  | template value =>
    obtain ⟨⟨found, behind⟩, hfound, h⟩ := exists_of_bind_eq_ok h
    cases h
    have hfront : readPast [.char '`'] (.unterminatedValue name)
        ((Literal.template value).source ++ rest) (value ++ [.char '`'] ++ rest) =
          .ok ⟨value, rest⟩ := hfound
    have hread := readPast_local (List.cons_ne_nil _ _) hfront (.unterminatedValue name)
      ((Literal.template value).source ++ rest') rest'
    simp only [Literal.source, List.cons_append] at hread ⊢
    simp only [readLiteral, hread]
    rfl
  | code value =>
    obtain ⟨⟨pieces, behind⟩, hpieces, h⟩ := exists_of_bind_eq_ok h
    cases h
    have hread := hinner.expression hpieces rest'
    simp only [Literal.source, braced, List.cons_append] at hread ⊢
    simp only [readLiteral, hread]
    rfl
  -- a value without a mark of its own ends only where something else starts
  | missing => exact readLiteral_bare_local h (.inl rfl) agree
  | bare value => exact readLiteral_bare_local h (.inr ⟨value, rfl⟩) agree

/-! ## Assignments -/

theorem Quote.isBlank_mark (quote : Quote) : quote.mark.isBlank = false := by
  cases quote <;> decide

theorem readAssignment_of_literal {tag name rest : Text} {a : Assignment}
    (hbefore : a.blankBefore.isBlank = true) (hafter : a.blankAfter.isBlank = true)
    (hliteral : a.literal.source ++ rest ≠ [])
    (hhead : ∀ c, (a.literal.source ++ rest).head? = some c → c.isBlank = false)
    (hread : readLiteral inner name (a.literal.source ++ rest) = .ok ⟨a.literal, rest⟩) :
    readAssignment inner tag name (a.source ++ rest) = .ok ⟨some a, rest⟩ := by
  have hequals : ∀ c, (CodePoint.char '=' :: (a.blankAfter ++ (a.literal.source ++ rest))).head? =
      some c → c.isBlank = false := by
    rintro c ⟨⟩
    decide
  have hsource : a.source ++ rest =
      a.blankBefore ++ .char '=' :: (a.blankAfter ++ (a.literal.source ++ rest)) := by
    simp [Assignment.source]
  rw [hsource, readAssignment, span_of_all hbefore hequals]
  simp only
  rw [span_of_all hafter hhead]
  simp only [List.isEmpty_eq_false_iff.2 hliteral, Bool.false_eq_true, if_false, hread]
  rfl

theorem of_readAssignment_some (hfaithful : inner.Faithful) {tag name rest : Text} {a : Assignment}
    (h : readAssignment inner tag name (a.source ++ rest) = .ok ⟨some a, rest⟩) :
    a.literal.source ++ rest ≠ [] ∧
      (∀ c, (a.literal.source ++ rest).head? = some c → c.isBlank = false) ∧
        readLiteral inner name (a.literal.source ++ rest) = .ok ⟨a.literal, rest⟩ := by
  unfold readAssignment at h
  generalize (a.source ++ rest).span CodePoint.isBlank = cut at h
  obtain ⟨blankBefore, behind⟩ := cut
  simp only at h
  split at h
  · next value =>
    generalize hspan : List.span CodePoint.isBlank value = cut at h
    obtain ⟨blankAfter, value⟩ := cut
    simp only at h
    split at h
    · cases h
    · next hempty =>
      obtain ⟨⟨literal, behind⟩, hliteral, h⟩ := exists_of_bind_eq_ok h
      cases h
      have hvalue := readLiteral_eq_append hfaithful hliteral
      simp only at hvalue
      subst hvalue
      exact ⟨by simpa using hempty, (of_span_eq hspan).2, hliteral⟩
  · cases h

/-- Without an equals sign behind the blanks there is nothing to be read, whatever else follows. -/
theorem readAssignment_none_local {tag name rest rest' : Text}
    (h : readAssignment inner tag name rest = .ok ⟨none, rest⟩) (agree : Agree EndsPart rest rest')
    (tag' : Text) : readAssignment inner tag' name rest' = .ok ⟨none, rest'⟩ := by
  obtain ⟨-, hbehind⟩ := agree.span (p := CodePoint.isBlank) fun c hc => hc.1
  unfold readAssignment at h ⊢
  generalize rest.span CodePoint.isBlank = cut at h hbehind
  generalize rest'.span CodePoint.isBlank = cut' at hbehind ⊢
  obtain ⟨blanks, behind⟩ := cut
  obtain ⟨blanks', behind'⟩ := cut'
  simp only at h hbehind ⊢
  split at h
  · split at h
    · cases h
    · obtain ⟨_, -, h⟩ := exists_of_bind_eq_ok h
      cases h
  · next hno =>
    split
    · next value =>
      obtain ⟨more, hmore⟩ := List.head?_eq_some_iff.1 hbehind.symm.head?_eq
      exact absurd hmore (hno more)
    · rfl

theorem readAssignment_local (hinner : inner.Local) (hfaithful : inner.Faithful)
    {tag name rest rest' : Text} {assignment : Option Assignment}
    (h : readAssignment inner tag name ((assignment.map Assignment.source).getD [] ++ rest) =
      .ok ⟨assignment, rest⟩) (agree : Agree EndsPart rest rest') (tag' : Text) :
    readAssignment inner tag' name ((assignment.map Assignment.source).getD [] ++ rest') =
      .ok ⟨assignment, rest'⟩ := by
  cases assignment with
  | none => exact readAssignment_none_local h agree tag'
  | some a =>
    have hproper := readAssignment_proper h a rfl
    obtain ⟨hne, hhead, hread⟩ := of_readAssignment_some hfaithful h
    have hhead' := head?_append_congr a.literal.source agree.head?_eq
    refine readAssignment_of_literal hproper.blankBefore hproper.blankAfter (fun hnil => ?_)
      (hhead' ▸ hhead) (readLiteral_local hinner hread agree)
    rw [hnil] at hhead'
    exact hne (List.head?_eq_none_iff.1 hhead'.symm)

/-! ## Parts -/

theorem readPart_blank (tag : Text) {c : CodePoint} {t : Text} (hc : c.isBlank = true) :
    readPart inner tag (c :: t) =
      .ok ⟨.blank ((c :: t).span CodePoint.isBlank).1, ((c :: t).span CodePoint.isBlank).2⟩ := by
  unfold readPart
  split
  · next hnil => cases hnil
  · next hslash =>
    obtain ⟨rfl, -⟩ := List.cons.inj hslash
    cases hc
  · next hbrace =>
    obtain ⟨rfl, -⟩ := List.cons.inj hbrace
    cases hc
  · next d u _ _ hcons =>
    obtain ⟨rfl, rfl⟩ := List.cons.inj hcons
    rw [if_pos hc]

theorem readPart_named {tag name behind rest : Text} {assignment : Option Assignment}
    (name_ne : name ≠ []) (hname : name.all isAttributeNamePart = true)
    (hbehind : ∀ c, behind.head? = some c → isAttributeNamePart c = false)
    (hread : readAssignment inner tag name behind = .ok ⟨assignment, rest⟩) :
    readPart inner tag (name ++ behind) = .ok ⟨.named name assignment, rest⟩ := by
  have hspan := span_of_all hname hbehind
  obtain ⟨c, name, rfl⟩ := List.exists_cons_of_ne_nil name_ne
  have hc : isAttributeNamePart c = true := List.all_eq_true.1 hname c (.head _)
  unfold readPart
  split
  · next hnil => cases hnil
  · next hslash =>
    obtain ⟨rfl, -⟩ := List.cons.inj hslash
    cases hc
  · next hbrace =>
    obtain ⟨rfl, -⟩ := List.cons.inj hbrace
    cases hc
  · next d u _ _ hcons =>
    have hblank : ¬ c.isBlank = true := by simpa using (Bool.and_eq_true_iff.1 hc).1
    rw [hspan]
    obtain ⟨rfl, -⟩ := List.cons.inj hcons
    rw [if_neg hblank]
    simp only [List.isEmpty_cons, Bool.false_eq_true, if_false, hread]
    rfl

theorem of_readPart_named {tag left rest name : Text} {assignment : Option Assignment}
    (h : readPart inner tag left = .ok ⟨.named name assignment, rest⟩) :
    name ≠ [] ∧ ∃ behind, left.span isAttributeNamePart = (name, behind) ∧
      readAssignment inner tag name behind = .ok ⟨assignment, rest⟩ := by
  unfold readPart at h
  split at h
  · cases h
  · cases h
  · obtain ⟨_, -, h⟩ := exists_of_bind_eq_ok h
    cases h
  · split at h
    · cases h
    · generalize List.span isAttributeNamePart _ = cut at h
      obtain ⟨found, behind⟩ := cut
      simp only at h
      split at h
      · cases h
      · next hempty =>
        obtain ⟨_, hassignment, h⟩ := exists_of_bind_eq_ok h
        cases h
        exact ⟨by simpa using hempty, behind, rfl, hassignment⟩

theorem of_readPart_blank {tag left rest blanks : Text}
    (h : readPart inner tag left = .ok ⟨.blank blanks, rest⟩) :
    (∃ c t, left = c :: t ∧ c.isBlank = true) ∧ left.span CodePoint.isBlank = (blanks, rest) := by
  unfold readPart at h
  split at h
  · cases h
  · cases h
  · obtain ⟨_, -, h⟩ := exists_of_bind_eq_ok h
    cases h
  · next c t _ _ =>
    split at h
    · next hblank =>
      cases h
      exact ⟨⟨c, t, rfl, hblank⟩, rfl⟩
    · generalize List.span isAttributeNamePart _ = cut at h
      obtain ⟨found, behind⟩ := cut
      simp only at h
      split at h
      · cases h
      · obtain ⟨_, -, h⟩ := exists_of_bind_eq_ok h
        cases h

/-- A part of an opening tag is read the same as long as what follows agrees up to something that
ends every part. -/
theorem readPart_local (hinner : inner.Local) (hfaithful : inner.Faithful) {tag : Text}
    {part : TagPart} {rest rest' : Text}
    (h : readPart inner tag (part.source ++ rest) = .ok ⟨part, rest⟩)
    (agree : Agree EndsPart rest rest') (tag' : Text) :
    readPart inner tag' (part.source ++ rest') = .ok ⟨part, rest'⟩ := by
  cases part with
  | blank blanks =>
    obtain ⟨⟨c, t, hleft, hc⟩, hspan⟩ := of_readPart_blank h
    have hspan' := span_local hspan agree.head?_eq
    obtain ⟨t', hleft'⟩ := List.head?_eq_some_iff.1
      ((head?_append_congr blanks agree.head?_eq).trans (congrArg List.head? hleft))
    rw [TagPart.source, hleft', readPart_blank tag' hc, ← hleft', hspan']
  | slash => rfl
  | code value =>
    obtain ⟨⟨pieces, behind⟩, hpieces, h⟩ := exists_of_bind_eq_ok h
    cases h
    have hread := hinner.expression hpieces rest'
    exact bind_eq_of_eq_ok hread
  | named name assignment =>
    obtain ⟨name_ne, behind, hspan, hread⟩ := of_readPart_named h
    have hbehind := readAssignment_eq_append hfaithful hread
    simp only at hbehind
    have hsource (t : Text) : (TagPart.named name assignment).source ++ t =
        name ++ ((assignment.map Assignment.source).getD [] ++ t) := by
      cases assignment <;> simp [TagPart.source]
    obtain ⟨hname, hstop⟩ := of_span_eq hspan
    rw [hbehind] at hread hstop
    rw [hsource]
    refine readPart_named name_ne hname ?_
      (readAssignment_local hinner hfaithful hread agree tag')
    rw [head?_append_congr _ agree.head?_eq]
    exact hstop

theorem source_ne_of_readPart {tag left : Text} {taken : Taken TagPart}
    (h : readPart inner tag left = .ok taken) : taken.value.source ≠ [] := by
  obtain ⟨part, rest⟩ := taken
  cases part with
  | blank blanks =>
    obtain ⟨⟨c, t, rfl, hc⟩, hspan⟩ := of_readPart_blank h
    rintro (rfl : blanks = [])
    rw [List.span_eq_takeWhile_dropWhile, List.takeWhile_cons_of_pos hc] at hspan
    cases hspan
  | slash | code => exact List.cons_ne_nil _ _
  | named name assignment =>
    have name_ne := (of_readPart_named h).1
    cases assignment <;> simp [TagPart.source, name_ne]

/-! ## Parts with other values -/

/-- Parts of opening tags that are the same, or the same but for the value between quotes. -/
inductive TagPart.Alike : TagPart → TagPart → Prop
  | same (part : TagPart) : Alike part part
  | quoted (name blankBefore blankAfter : Text) (quote : Quote) (value : Text) {value' : Text}
      (proper : quote.mark ∉ value') :
      Alike (.named name (some ⟨blankBefore, blankAfter, .quoted quote value⟩))
        (.named name (some ⟨blankBefore, blankAfter, .quoted quote value'⟩))

/-- Up to the equals sign of an attribute nothing tells which value it has. -/
theorem TagPart.Alike.agree {part part' : TagPart} (h : part.Alike part') {rest rest' : Text}
    (agree : Agree EndsPart rest rest') :
    Agree EndsPart (part.source ++ rest) (part'.source ++ rest') := by
  cases h with
  | same => exact agree.append _
  | quoted name blankBefore blankAfter quote value _ =>
    have hmem : CodePoint.char '=' ∈ name ++ blankBefore ++ [.char '='] := by simp
    have hequals : EndsPart (.char '=') := ⟨by decide, by decide⟩
    simpa [TagPart.source, Assignment.source] using Agree.of_mem hmem hequals
      (blankAfter ++ (Literal.quoted quote value).source ++ rest)
      (blankAfter ++ (Literal.quoted quote _).source ++ rest')

theorem agree_of_alike {parts parts' : List TagPart} (h : List.Forall₂ TagPart.Alike parts parts')
    (selfClosing : Bool) (rest rest' : Text) :
    Agree EndsPart
      (partsSource parts ++ ((if selfClosing then text "/>" else text ">") ++ rest))
      (partsSource parts' ++ ((if selfClosing then text "/>" else text ">") ++ rest')) := by
  induction h with
  | nil =>
    have hmem : CodePoint.char '>' ∈ if selfClosing then text "/>" else text ">" := by
      cases selfClosing <;> decide
    exact Agree.of_mem hmem ⟨by decide, by decide⟩ rest rest'
  | cons hpart _ ih =>
    simp only [partsSource, List.flatMap_cons, List.append_assoc] at ih ⊢
    exact hpart.agree ih

theorem readPart_alike (hinner : inner.Local) (hfaithful : inner.Faithful) {tag : Text}
    {part part' : TagPart} (halike : part.Alike part') {rest rest' : Text}
    (h : readPart inner tag (part.source ++ rest) = .ok ⟨part, rest⟩)
    (agree : Agree EndsPart rest rest') (tag' : Text) :
    readPart inner tag' (part'.source ++ rest') = .ok ⟨part', rest'⟩ := by
  cases halike with
  | same => exact readPart_local hinner hfaithful h agree tag'
  | quoted name blankBefore blankAfter quote value proper =>
    obtain ⟨name_ne, behind, hspan, hread⟩ := of_readPart_named h
    have hassignment := readAssignment_proper hread _ rfl
    have hbehind := readAssignment_eq_append hfaithful hread
    simp only [Option.map_some, Option.getD_some] at hbehind
    obtain ⟨hname, hstop⟩ := of_span_eq hspan
    rw [TagPart.source, List.append_assoc]
    refine readPart_named name_ne hname ?_ (readAssignment_of_literal hassignment.blankBefore
      hassignment.blankAfter (by simp [Literal.source]) ?_ (readLiteral_quoted name proper rest'))
    · -- a name ends the same before either value
      rw [hbehind] at hstop
      simp only [Assignment.source, List.append_assoc] at hstop ⊢
      intro c hc
      refine hstop c ?_
      rw [← hc]
      exact head?_append_congr blankBefore rfl
    · rintro c ⟨⟩
      exact quote.isBlank_mark

/-! ## Opening tags -/

theorem readParts_cons {tag left rest rest' : Text} {part : TagPart} {parts : List TagPart}
    {selfClosing : Bool} {steps : Nat} (hslash : (text "/>").isPrefixOf left = false)
    (hpart : readPart inner tag left = .ok ⟨part, rest⟩)
    (hparts : readParts inner tag steps rest = .ok ⟨(selfClosing, parts), rest'⟩) :
    readParts inner tag (steps + 1) left = .ok ⟨(selfClosing, part :: parts), rest'⟩ := by
  unfold readParts
  split
  · -- the end of the tag is no part of it
    cases hpart
  · cases hslash
  · rw [hpart]
    exact bind_eq_of_eq_ok hparts

theorem slash_congr {left left' : Text} (agree : Agree EndsPart left left') :
    (text "/>").isPrefixOf left' = (text "/>").isPrefixOf left := by
  obtain ⟨c, t, rfl⟩ := List.exists_cons_of_ne_nil agree.ne_nil
  obtain ⟨d, t', rfl⟩ := List.exists_cons_of_ne_nil agree.symm.ne_nil
  obtain rfl : d = c := by simpa using agree.head?_eq
  by_cases hd : d = .char '/'
  · exact isPrefixOf_pair_congr (agree.tail fun h => h.2 hd).head?_eq
  · have hne : (CodePoint.char '/' == d) = false := by simpa using fun h => hd h.symm
    simp [text, List.isPrefixOf, hne]

/-- The parts of an opening tag are read the same with other values between their quotes, and
whatever follows the tag. -/
theorem readParts_alike (hinner : inner.Local) (hfaithful : inner.Faithful) {tag : Text} :
    ∀ (steps : Nat) (left : Text) (taken : Taken (Bool × List TagPart)),
      readParts inner tag steps left = .ok taken →
        ∀ (parts' : List TagPart), List.Forall₂ TagPart.Alike taken.value.2 parts' →
          ∀ (tag' : Text) (steps' : Nat) (rest' : Text),
            (partsSource parts' ++ ((if taken.value.1 then text "/>" else text ">") ++
              rest')).length ≤ steps' →
              readParts inner tag' steps' (partsSource parts' ++
                ((if taken.value.1 then text "/>" else text ">") ++ rest')) =
                  .ok ⟨(taken.value.1, parts'), rest'⟩ := by
  intro steps
  induction steps with
  | zero => intro left taken h; cases h
  | succ steps ih =>
    intro left taken h parts' halike tag' steps' rest' hsteps
    have hleft := readParts_eq_append hfaithful tag _ _ _ h
    unfold readParts at h
    split at h
    · -- the bracket that ends the tag
      cases h
      cases halike
      obtain ⟨steps'', rfl⟩ := Nat.exists_eq_add_of_le' (Nat.le_trans (Nat.succ_pos _) hsteps)
      rfl
    · -- a slash before the bracket
      cases h
      cases halike
      obtain ⟨steps'', rfl⟩ := Nat.exists_eq_add_of_le' (Nat.le_trans (Nat.succ_pos _) hsteps)
      rfl
    · -- one more part, behind which the others start as before
      next hbracket hslash =>
      obtain ⟨⟨part, rest⟩, hpart, h⟩ := exists_of_bind_eq_ok h
      obtain ⟨⟨⟨selfClosing, parts⟩, behind⟩, hparts, h⟩ := exists_of_bind_eq_ok h
      cases h
      cases halike with
      | @cons _ part' _ parts' halike hrest =>
        have hagree := agree_of_alike hrest selfClosing behind rest'
        have hrest_eq : rest = _ := readParts_eq_append hfaithful tag _ _ _ hparts
        have hleft_eq : left = part.source ++ rest := readPart_eq_append hfaithful hpart
        rw [List.append_assoc] at hrest_eq
        rw [← hrest_eq] at hagree
        rw [hleft_eq] at hpart
        have hpart' := readPart_alike hinner hfaithful halike hpart hagree tag'
        have hstart : (text "/>").isPrefixOf left = false := by
          rw [Bool.eq_false_iff]
          exact fun hprefix => hslash _ (eq_append_of_isPrefixOf hprefix)
        rw [hleft_eq, ← slash_congr (halike.agree hagree)] at hstart
        have hsource : 0 < part'.source.length :=
          List.length_pos_iff.2 (source_ne_of_readPart hpart')
        simp only [partsSource, List.flatMap_cons, List.append_assoc] at hsteps hpart' hstart ⊢
        rw [List.length_append] at hsteps
        obtain ⟨steps'', rfl⟩ : ∃ steps'', steps' = steps'' + 1 := ⟨steps' - 1, by omega⟩
        exact readParts_cons hstart hpart'
          (ih rest _ hparts _ hrest tag' steps'' rest' (Nat.le_of_lt_succ (by
            simp only [partsSource]
            omega)))

theorem OpenTag.source_append (opening : OpenTag) (t : Text) : opening.source ++ t =
    .char '<' :: (opening.name ++ (partsSource opening.parts ++
      ((if opening.selfClosing then text "/>" else text ">") ++ t))) := by
  simp [OpenTag.source, OpenTag.ending]

/-- Behind its angle bracket an opening tag starts the same with other values between its
quotes. -/
theorem head?_openTag {opening : OpenTag} {parts' : List TagPart}
    (halike : List.Forall₂ TagPart.Alike opening.parts parts') (rest rest' : Text) :
    (opening.name ++ (partsSource parts' ++
        ((if opening.selfClosing then text "/>" else text ">") ++ rest'))).head? =
      (opening.name ++ (partsSource opening.parts ++
        ((if opening.selfClosing then text "/>" else text ">") ++ rest))).head? :=
  head?_append_congr _ (agree_of_alike halike opening.selfClosing rest rest').head?_eq

/-- An opening tag is read the same with other values between its quotes, and whatever follows
it. -/
theorem readOpenTag_alike (hinner : inner.Local) (hfaithful : inner.Faithful) {opening : OpenTag}
    {rest : Text} (h : readOpenTag inner (opening.source ++ rest) = .ok ⟨opening, rest⟩)
    {parts' : List TagPart} (halike : List.Forall₂ TagPart.Alike opening.parts parts')
    (rest' : Text) :
    readOpenTag inner ({ opening with parts := parts' }.source ++ rest') =
      .ok ⟨{ opening with parts := parts' }, rest'⟩ := by
  obtain ⟨name, parts, selfClosing⟩ := opening
  rw [OpenTag.source_append] at h
  unfold readOpenTag at h
  simp only [List.drop_succ_cons, List.drop_zero] at h
  generalize hspan : List.span isTagNamePart _ = cut at h
  obtain ⟨found, behind⟩ := cut
  obtain ⟨⟨⟨closes, found'⟩, behind'⟩, hparts, h⟩ := exists_of_map_eq_ok h
  cases h
  have hbehind : behind = _ := readParts_eq_append hfaithful _ _ _ _ hparts
  rw [List.append_assoc] at hbehind
  rw [hbehind] at hspan
  -- the name ends where the first part starts
  have hspan' := span_local hspan (agree_of_alike halike closes behind' rest').head?_eq
  have hparts' := readParts_alike hinner hfaithful _ _ _ hparts parts' halike
    (OpenTag.source ⟨found, parts', closes⟩ ++ rest')
    (OpenTag.source ⟨found, parts', closes⟩ ++ rest').length rest' (by
      simp only [OpenTag.source_append, List.length_cons, List.length_append]
      omega)
  rw [readOpenTag]
  rw [OpenTag.source_append] at hparts' ⊢
  simp only [List.drop_succ_cons, List.drop_zero, hspan', hparts']
  rfl

end VisibleText.Markup
