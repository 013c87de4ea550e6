import VisibleText.Proofs.Calls

/-!
# Failures of the readers

A call that fails makes its caller fail in the same way (`Makes.fails`). A failure starts in some
call: it finds a fault in the page, or it may not go down any further
(`Call.Placed.failureOrigin`). So the calls that are made when a page is read are all that
decides whether it can be read.

A fault is found where the construct starts that it names (`Fault.Names`). The readers of opening
tags, code and strings blame the start of what they read, so this rests on what a call is given as
that start (`Call.Begins`).
-/

set_option autoImplicit false

namespace VisibleText.Markup

/-! ## Equations of the readers -/

variable {inner : Readers} {tag start left name : Text} {opened : List Text} {e : Failure}

/-- What starts with the name of an attribute starts with a part of one. -/
theorem isAttributeNamePart_of_name {behind : Text}
    (named : left.span isAttributeNamePart = (name, behind)) (name_ne : name ≠ []) :
    ∃ c t, left = c :: t ∧ isAttributeNamePart c = true := by
  rw [List.span_eq_takeWhile_dropWhile, Prod.mk.injEq] at named
  cases left with
  | nil => exact absurd named.1.symm name_ne
  | cons c t =>
    refine ⟨c, t, rfl, ?_⟩
    by_contra hc
    rw [List.takeWhile_cons_of_neg hc] at named
    exact name_ne named.1.symm

theorem no_end_of_name {behind : Text} (named : left.span isAttributeNamePart = (name, behind))
    (name_ne : name ≠ []) :
    left.head? ≠ some (.char '>') ∧ (text "/>").isPrefixOf left = false := by
  obtain ⟨c, t, rfl, hc⟩ := isAttributeNamePart_of_name named name_ne
  constructor
  · rintro hhead
    obtain rfl : c = .char '>' := Option.some.inj hhead
    exact absurd hc (by decide)
  · rw [Bool.eq_false_iff]
    intro hprefix
    obtain ⟨rfl, -⟩ := List.cons.inj (eq_append_of_isPrefixOf hprefix)
    exact absurd hc (by decide)

theorem readPart_of_name {behind : Text} (named : left.span isAttributeNamePart = (name, behind))
    (name_ne : name ≠ []) :
    readPart inner tag left =
      (readAssignment inner tag name behind).map fun taken =>
        ⟨.named name taken.value, taken.left⟩ := by
  -- the first code point belongs to the name, so it starts no other part
  obtain ⟨c, t, rfl, hc⟩ := isAttributeNamePart_of_name named name_ne
  have hblank : c.isBlank = false := by
    simp only [isAttributeNamePart, Bool.and_eq_true, Bool.not_eq_true'] at hc
    exact hc.1
  unfold readPart
  split
  · next hnil => cases hnil
  · next hcons =>
    obtain ⟨rfl, -⟩ := List.cons.inj hcons
    exact absurd hc (by decide)
  · next hcons =>
    obtain ⟨rfl, -⟩ := List.cons.inj hcons
    exact absurd hc (by decide)
  · next hcons =>
    obtain ⟨rfl, rfl⟩ := List.cons.inj hcons
    simp only [hblank, named, List.isEmpty_iff, name_ne, Bool.false_eq_true, if_false]
    cases readAssignment inner tag name behind <;> rfl

theorem readAssignment_of_equals {blankBefore value blankAfter rest : Text}
    (before : left.span CodePoint.isBlank = (blankBefore, .char '=' :: value))
    (after : value.span CodePoint.isBlank = (blankAfter, rest)) (rest_ne : rest ≠ []) :
    readAssignment inner tag name left =
      (readLiteral inner name rest).map fun taken =>
        ⟨some ⟨blankBefore, blankAfter, taken.value⟩, taken.left⟩ := by
  unfold readAssignment
  simp only [before, after, List.isEmpty_iff, rest_ne, if_false]
  cases readLiteral inner name rest <;> rfl

theorem readItem_of_brace (code : Text) :
    readItem inner opened (.char '{' :: code) =
      (inner.expression (.char '{' :: code)).map fun taken =>
        ⟨.node (.expression taken.value), taken.left⟩ := by
  change (inner.expression (.char '{' :: code) >>= _) = _
  cases inner.expression (.char '{' :: code) <;> rfl

theorem readPart_of_brace (code : Text) :
    readPart inner tag (.char '{' :: code) =
      (inner.expression (.char '{' :: code)).map fun taken =>
        ⟨.code (piecesSource taken.value), taken.left⟩ := by
  change (inner.expression (.char '{' :: code) >>= _) = _
  cases inner.expression (.char '{' :: code) <;> rfl

theorem readLiteral_of_brace (code : Text) :
    readLiteral inner name (.char '{' :: code) =
      (inner.expression (.char '{' :: code)).map fun taken =>
        ⟨.code (piecesSource taken.value), taken.left⟩ := by
  change (inner.expression (.char '{' :: code) >>= _) = _
  cases inner.expression (.char '{' :: code) <;> rfl

theorem readStringStep_of_brace (code : Text) :
    readStringStep inner (.char '`') start (.char '$' :: .char '{' :: code) =
      (inner.expression (.char '{' :: code)).map fun taken =>
        ⟨(.char '$' :: braced (piecesSource taken.value), some ()), taken.left⟩ := by
  change (inner.expression (.char '{' :: code) >>= _) = _
  cases inner.expression (.char '{' :: code) <;> rfl

theorem readCodeStep_of_opensTag {before : Text} {depth : Nat}
    (opens : opensTag left = true) (allowed : tagMayFollow before = true) :
    readCodeStep inner start depth before left =
      (inner.tag [] left).map fun taken =>
        ⟨(codePiece before ++ [.markup taken.value], some (depth, [])), taken.left⟩ := by
  obtain ⟨body, rfl⟩ := eq_cons_of_opensTag opens
  have hquote : (CodePoint.char '<').isAmong ['"', '\'', '`'] = false := by decide
  have hline : (text "//").isPrefixOf (.char '<' :: body) = false := rfl
  have hcomment : (text "/*").isPrefixOf (.char '<' :: body) = false := rfl
  have hbraces : CodePoint.char '<' ≠ .char '{' ∧ CodePoint.char '<' ≠ .char '}' := by decide
  simp only [readCodeStep, hquote, hline, hcomment, hbraces.1, hbraces.2, opens, allowed,
    Bool.and_self, Bool.false_eq_true, if_false, if_true]
  cases inner.tag [] (.char '<' :: body) <;> rfl

theorem readTag_of_opening {behind : Text} {opening : OpenTag}
    (named : (text "<>").isPrefixOf left = false)
    (read : readOpenTag inner left = .ok ⟨opening, behind⟩)
    (opens : opening.opensNothing = false) (kind : isRaw opening.name = false) :
    readTag inner opened left =
      (readContent inner (opening.name :: opened) behind.length behind).map fun taken =>
        ⟨.tag opening taken.value.nodes taken.value.closing, taken.left⟩ := by
  unfold OpenTag.opensNothing at opens
  rw [readTag, if_neg (Bool.eq_false_iff.1 named), read]
  simp only [Bind.bind, Except.bind, opens, kind, Bool.false_eq_true, if_false]
  cases readContent inner (opening.name :: opened) behind.length behind <;> rfl

theorem eq_cons_of_fragment {body : Text}
    (h : (text "<>").isPrefixOf (.char '<' :: body) = true) :
    ∃ rest, body = .char '>' :: rest :=
  ⟨_, (List.cons.inj (eq_append_of_isPrefixOf h)).2⟩

theorem readTag_of_fragment (body : Text) :
    readTag inner opened (.char '<' :: .char '>' :: body) =
      (readContent inner ([] :: opened) body.length body).map fun taken =>
        ⟨.fragment taken.value.nodes taken.value.closing, taken.left⟩ := by
  have hprefix : (text "<>").isPrefixOf (.char '<' :: .char '>' :: body) = true := rfl
  rw [readTag, if_pos hprefix]
  simp only [List.drop_succ_cons, List.drop_zero]
  cases readContent inner ([] :: opened) body.length body <;> rfl

theorem readOpenTag_eq {levels : Nat} (body : Text) :
    readOpenTag (readers levels) (.char '<' :: body) =
      (readParts (readers levels) (.char '<' :: body) (body.dropWhile isTagNamePart).length
        (body.dropWhile isTagNamePart)).map fun taken =>
          ⟨⟨body.takeWhile isTagNamePart, taken.value.2, taken.value.1⟩, taken.left⟩ := by
  have hlength : (body.dropWhile isTagNamePart).length ≤ body.length :=
    (List.dropWhile_suffix _).length_le
  unfold readOpenTag
  simp only [List.drop_succ_cons, List.drop_zero, List.span_eq_takeWhile_dropWhile]
  rw [readParts_steps (readers_faithful levels) _ _ (body.dropWhile isTagNamePart)
    (by rw [List.length_cons]; omega) _ (Nat.le_refl _)]

theorem readExpression_eq {levels : Nat} (code : Text) :
    readExpression (readers levels) (.char '{' :: code) =
      readCode (readers levels) (.char '{' :: code) code.length 1 [] code :=
  readCode_steps (readers_faithful levels) _ _ _ _ _ (Nat.le_succ _) _ (Nat.le_refl _)

/-! ## Callers of calls that fail -/

theorem map_eq_error_iff {ε α β : Type} {x : Except ε α} {f : α → β} {e : ε} :
    x.map f = .error e ↔ x = .error e := by
  cases x with
  | error e' =>
    constructor <;>
    · intro h
      exact congrArg _ (Except.error.inj h)
  | ok a => exact ⟨fun h => (nomatch h), fun h => (nomatch h)⟩

theorem prepend_eq_error_iff {α : Type} {front : List α}
    {reading : Except Failure (Taken (List α))} {e : Failure} :
    prepend front reading = .error e ↔ reading = .error e :=
  map_eq_error_iff

theorem readParts_of_error (hend : left.head? ≠ some (.char '>'))
    (hslash : (text "/>").isPrefixOf left = false) (hpart : readPart inner tag left = .error e) :
    readParts inner tag left.length left = .error e := by
  cases left with
  | nil =>
    cases hpart
    rfl
  | cons c t =>
    rw [List.length_cons, readParts, hpart]
    · rfl
    · rintro rest hcons
      exact hend (congrArg List.head? hcons)
    · rintro rest hcons
      rw [hcons] at hslash
      cases hslash

theorem readContent_of_error (left_ne : left ≠ [])
    (hitem : readItem inner opened left = .error e) :
    readContent inner opened left.length left = .error e := by
  obtain ⟨c, t, rfl⟩ := List.exists_cons_of_ne_nil left_ne
  rw [List.length_cons, readContent, if_neg (by simp), hitem]
  rfl

theorem readTag_of_error (named : (text "<>").isPrefixOf left = false)
    (h : readOpenTag inner left = .error e) :
    readTag inner opened left = .error e := by
  rw [readTag, if_neg (Bool.eq_false_iff.1 named), h]
  rfl

/-- A call that fails makes its caller fail in the same way. -/
theorem Makes.fails {frames frames' : List Frame} {c c' : Call}
    (makes : Makes frames c frames' c') (h : c'.outcome = .error e) : c.outcome = .error e := by
  -- of either call only the failure counts
  cases makes <;> simp only [Call.outcome, map_eq_error_iff] at h ⊢
  case item left_ne read =>
    rw [readContent_of_item left_ne read]
    exact map_eq_error_iff.2 h
  case tagInContent opens =>
    refine readContent_of_error ?_ ?_
    · rintro rfl
      cases opens
    · rw [readItem_of_opensTag_eq opens, h]
      rfl
  case expressionInContent =>
    refine readContent_of_error (List.cons_ne_nil _ _) ?_
    rw [readItem_of_brace, h]
    rfl
  case fragment => exact (readTag_of_fragment _).trans (map_eq_error_iff.2 h)
  case attributes named =>
    refine readTag_of_error named ?_
    rw [readOpenTag_eq, h]
    rfl
  case children named read opens kind =>
    exact (readTag_of_opening named read opens kind).trans (map_eq_error_iff.2 h)
  case part slash read =>
    rw [readParts_of_part (readers_faithful _) slash read]
    exact map_eq_error_iff.2 h
  case attributeCode =>
    refine readParts_of_error (by simp) rfl ?_
    rw [readPart_of_brace, h]
    rfl
  case valueCode named name_ne before after =>
    obtain ⟨hend, hslash⟩ := no_end_of_name named name_ne
    refine readParts_of_error hend hslash ?_
    rw [readPart_of_name named name_ne,
      readAssignment_of_equals before after (List.cons_ne_nil _ _), readLiteral_of_brace, h]
    rfl
  case code => exact (readExpression_eq _).trans h
  case codeStep read =>
    rw [readCode_eq (readers_faithful _), read]
    exact map_eq_error_iff.2 h
  case tagInCode opens allowed =>
    rw [readCode_eq (readers_faithful _), readCodeStep_of_opensTag opens allowed, h]
    rfl
  case string quotes =>
    rw [readCode_eq (readers_faithful _)]
    simp only [readCodeStep, quotes, if_true, h]
    rfl
  case stringStep read =>
    rw [readString_eq (readers_faithful _), read]
    exact map_eq_error_iff.2 h
  case templateCode =>
    rw [readString_eq (readers_faithful _), readStringStep_of_brace, h]
    rfl

/-! ## What faults name -/

/-- The construct that a fault names starts at a place of a page. -/
def Fault.Names (page : Text) : Fault → (place : Text) → Prop
  | unterminatedFence, place => text "---" <+: place
  | unterminatedComment, place => text "<!--" <+: place
  | unterminatedDoctype, place => text "<!" <+: place
  | unterminatedClosingTag, place => text "</" <+: place
  | unexpectedClosingTag name, place => ∃ inside rest,
      place = text "</" ++ (inside ++ .char '>' :: rest) ∧ .char '>' ∉ inside ∧
        Text.trim inside = name
  | unterminatedOpeningTag, place => opensTag place = true
  | unterminatedElement name, place => text "<" ++ name <+: place
  | unexpectedCharacter c, place => [c] <+: place
  -- the value stands behind the name of its attribute and an equals sign
  | unterminatedValue name, place => ∃ blankBefore blankAfter quote,
      name ++ (blankBefore ++ .char '=' :: (blankAfter ++ place)) <:+ page ∧
        Text.isBlank blankBefore = true ∧ Text.isBlank blankAfter = true ∧
          quote.isAmong ['"', '\'', '`'] = true ∧ [quote] <+: place
  | unterminatedCodeComment, place => text "/*" <+: place
  | unterminatedString, place => ∃ quote, quote.isAmong ['"', '\'', '`'] = true ∧
      [quote] <+: place
  | unterminatedExpression, place => [.char '{'] <+: place

/-- The construct that a call reads on, and that it blames, begins where it is said to. -/
def Call.Begins : Call → Prop
  | .parts _ start _ => opensTag start = true
  | .code _ start _ _ _ => [.char '{'] <+: start
  | .string _ quote start _ => quote.isAmong ['"', '\'', '`'] = true ∧ [quote] <+: start
  | .content .. | .tag .. | .expression .. => True

/-- A call that is made is given the start of the construct that it reads. -/
theorem Makes.begins {page : Text} {frames frames' : List Frame} {c c' : Call}
    (makes : Makes frames c frames' c') (placed : c.Placed page) (h : c.Begins) : c'.Begins := by
  cases makes with
  | item | tagInContent | expressionInContent | fragment | children | attributeCode | valueCode
  | tagInCode | templateCode => trivial
  | attributes => exact placed.2
  | part | codeStep | stringStep => exact h
  | code => exact List.prefix_append [_] _
  | string quotes => exact ⟨quotes, List.prefix_append [_] _⟩

/-! ## Where failures start -/

theorem readPast_eq_error {mark : Text} {fault : Fault} {t : Text}
    (h : readPast mark fault start t = .error e) : e = .fault fault start := by
  unfold readPast at h
  split at h
  · cases h
  · exact (Except.error.inj h).symm

theorem eq_error_of_bind_eq_error {ε α β : Type} {x : Except ε α} {f : α → Except ε β} {e : ε}
    (h : x >>= f = .error e) : x = .error e ∨ ∃ a, x = .ok a ∧ f a = .error e := by
  cases x with
  | error e' =>
    cases h
    exact .inl rfl
  | ok a => exact .inr ⟨a, rfl, h⟩

theorem readItem_eq_error (page : Text) (h : readItem inner opened left = .error e) :
    (∃ cause : Fault, e = .fault cause left ∧ cause.Names page left) ∨
    (opensTag left = true ∧ inner.tag opened left = .error e) ∨
    (∃ code, left = .char '{' :: code ∧ inner.expression left = .error e) := by
  unfold readItem at h
  split at h
  · next hmark =>
    exact .inl ⟨_, readPast_eq_error (map_eq_error_iff.1 h), List.isPrefixOf_iff_prefix.1 hmark⟩
  split at h
  · next hmark =>
    exact .inl ⟨_, readPast_eq_error (map_eq_error_iff.1 h), List.isPrefixOf_iff_prefix.1 hmark⟩
  split at h
  · next hmark =>
    rcases eq_error_of_bind_eq_error h with hinside | ⟨⟨inside, rest⟩, hinside, h⟩
    · exact .inl ⟨_, readPast_eq_error hinside, List.isPrefixOf_iff_prefix.1 hmark⟩
    · -- a closing tag that closes nothing
      have hleft : left = text "</" ++ (inside ++ .char '>' :: rest) := by
        refine (eq_append_of_isPrefixOf hmark).trans (congrArg (text "</" ++ ·) ?_)
        exact (readPast_eq_append hinside).trans (by simp)
      simp only at h
      split at h
      · cases h
      split at h
      · cases h
      · exact .inl ⟨_, (Except.error.inj h).symm, inside, rest, hleft,
          not_mem_of_readPast hinside, rfl⟩
  split at h
  · next opens => exact .inr (.inl ⟨opens, map_eq_error_iff.1 h⟩)
  split at h
  · next hbrace =>
    obtain ⟨code, rfl⟩ := List.head?_eq_some_iff.1 hbrace
    exact .inr (.inr ⟨code, rfl, map_eq_error_iff.1 h⟩)
  · cases h

theorem readLiteral_eq_error (h : readLiteral inner name left = .error e) :
    (e = .fault (.unterminatedValue name) left ∧
      ∃ quote, quote.isAmong ['"', '\'', '`'] = true ∧ [quote] <+: left) ∨
    (∃ code, left = .char '{' :: code ∧ inner.expression left = .error e) := by
  unfold readLiteral at h
  split at h
  · exact .inl ⟨readPast_eq_error (map_eq_error_iff.1 h), _, rfl, List.prefix_append [_] _⟩
  · exact .inl ⟨readPast_eq_error (map_eq_error_iff.1 h), _, rfl, List.prefix_append [_] _⟩
  · exact .inl ⟨readPast_eq_error (map_eq_error_iff.1 h), _, rfl, List.prefix_append [_] _⟩
  · exact .inr ⟨_, rfl, map_eq_error_iff.1 h⟩
  · simp only at h
    split at h <;> cases h

theorem append_of_span {p : CodePoint → Bool} {t before after : Text}
    (h : t.span p = (before, after)) : before ++ after = t := by
  have key := span_append p t
  rwa [h] at key

theorem readAssignment_eq_error (h : readAssignment inner start name left = .error e) :
    e = .fault .unterminatedOpeningTag start ∨
    (∃ blankBefore blankAfter place quote,
      left = blankBefore ++ .char '=' :: (blankAfter ++ place) ∧
        Text.isBlank blankBefore = true ∧ Text.isBlank blankAfter = true ∧
          quote.isAmong ['"', '\'', '`'] = true ∧ [quote] <+: place ∧
            e = .fault (.unterminatedValue name) place) ∨
    (∃ blankBefore value blankAfter code,
      left.span CodePoint.isBlank = (blankBefore, .char '=' :: value) ∧
        value.span CodePoint.isBlank = (blankAfter, .char '{' :: code) ∧
          inner.expression (.char '{' :: code) = .error e) := by
  unfold readAssignment at h
  cases hbefore : List.span CodePoint.isBlank left with
  | mk blankBefore behind =>
    rw [hbefore] at h
    simp only at h
    split at h
    · next value =>
      cases hafter : List.span CodePoint.isBlank value with
      | mk blankAfter rest =>
        rw [hafter] at h
        simp only at h
        split at h
        · exact .inl (Except.error.inj h).symm
        · rcases readLiteral_eq_error (map_eq_error_iff.1 h) with
            ⟨rfl, quote, quotes, hquote⟩ | ⟨code, rfl, h⟩
          · refine .inr (.inl ⟨blankBefore, blankAfter, rest, quote, ?_, (of_span_eq hbefore).1,
              (of_span_eq hafter).1, quotes, hquote, rfl⟩)
            rw [append_of_span hafter, append_of_span hbefore]
          · exact .inr (.inr ⟨blankBefore, value, blankAfter, code, rfl, hafter, h⟩)
    · cases h

theorem readPart_eq_error {page : Text} (hleft : left <:+ page)
    (h : readPart inner start left = .error e) :
    e = .fault .unterminatedOpeningTag start ∨
    (∃ cause : Fault, ∃ place, e = .fault cause place ∧ place <:+ left ∧
      cause.Names page place) ∨
    (∃ code, left = .char '{' :: code ∧ inner.expression left = .error e) ∨
    (∃ name behind blankBefore value blankAfter code,
      left.span isAttributeNamePart = (name, behind) ∧ name ≠ [] ∧
        behind.span CodePoint.isBlank = (blankBefore, .char '=' :: value) ∧
          value.span CodePoint.isBlank = (blankAfter, .char '{' :: code) ∧
            inner.expression (.char '{' :: code) = .error e) := by
  unfold readPart at h
  split at h
  · exact .inl (Except.error.inj h).symm
  · cases h
  · exact .inr (.inr (.inl ⟨_, rfl, map_eq_error_iff.1 h⟩))
  · split at h
    · cases h
    · next c t _ _ _ =>
      cases hname : List.span isAttributeNamePart (c :: t) with
      | mk name behind =>
        rw [hname] at h
        simp only at h
        split at h
        · exact .inr (.inl ⟨_, _, (Except.error.inj h).symm, List.suffix_rfl,
            List.prefix_append [_] _⟩)
        · next name_ne =>
          rw [List.isEmpty_iff] at name_ne
          rcases readAssignment_eq_error (map_eq_error_iff.1 h) with rfl |
            ⟨blankBefore, blankAfter, place, quote, rfl, before, after, quotes, hquote, rfl⟩ |
            ⟨blankBefore, value, blankAfter, code, before, after, h⟩
          · exact .inl rfl
          · rw [← append_of_span hname] at hleft ⊢
            refine .inr (.inl ⟨_, place, rfl,
              ⟨name ++ (blankBefore ++ .char '=' :: blankAfter), ?_⟩,
              blankBefore, blankAfter, quote, hleft, before, after, quotes, hquote⟩)
            simp
          · exact .inr (.inr (.inr ⟨name, behind, blankBefore, value, blankAfter, code, rfl,
              name_ne, before, after, h⟩))

theorem readCodeStep_eq_error {depth : Nat} {before : Text}
    (h : readCodeStep inner start depth before left = .error e) :
    e = .fault .unterminatedExpression start ∨
    (e = .fault .unterminatedCodeComment left ∧ text "/*" <+: left) ∨
    (∃ c rest, left = c :: rest ∧ c.isAmong ['"', '\'', '`'] = true ∧
      readString inner c left rest.length rest = .error e) ∨
    (opensTag left = true ∧ tagMayFollow before = true ∧ inner.tag [] left = .error e) := by
  cases left with
  | nil => exact .inl (Except.error.inj h).symm
  | cons c rest =>
    simp only [readCodeStep] at h
    split at h
    · next quotes => exact .inr (.inr (.inl ⟨c, rest, rfl, quotes, map_eq_error_iff.1 h⟩))
    split at h
    · cases h
    split at h
    · next hmark =>
      exact .inr (.inl ⟨readPast_eq_error (map_eq_error_iff.1 h),
        List.isPrefixOf_iff_prefix.1 hmark⟩)
    split at h
    · cases h
    split at h
    · split at h <;> cases h
    split at h
    · next htag =>
      obtain ⟨opens, allowed⟩ := Bool.and_eq_true_iff.1 htag
      exact .inr (.inr (.inr ⟨opens, allowed, map_eq_error_iff.1 h⟩))
    · cases h

theorem readStringStep_eq_error {quote : CodePoint}
    (h : readStringStep inner quote start left = .error e) :
    e = .fault .unterminatedString start ∨
    (∃ code, quote = .char '`' ∧ left = .char '$' :: .char '{' :: code ∧
      inner.expression (.char '{' :: code) = .error e) := by
  cases left with
  | nil => exact .inl (Except.error.inj h).symm
  | cons c rest =>
    simp only [readStringStep] at h
    split at h
    · cases rest with
      | nil => exact .inl (Except.error.inj h).symm
      | cons d rest => cases h
    split at h
    · cases h
    split at h
    · next hquote =>
      split at h
      · next hcode =>
        simp only [Bool.and_eq_true, decide_eq_true_eq] at hcode
        obtain ⟨rfl, hbrace⟩ := hcode
        obtain ⟨code, rfl⟩ := List.head?_eq_some_iff.1 hbrace
        exact .inr ⟨code, hquote, rfl, map_eq_error_iff.1 h⟩
      · cases h
    split at h <;> cases h

theorem readParts_eq_error (hinner : inner.Faithful)
    (h : readParts inner start left.length left = .error e) :
    readPart inner start left = .error e ∨
    (∃ part rest, (text "/>").isPrefixOf left = false ∧
      readPart inner start left = .ok ⟨part, rest⟩ ∧
        readParts inner start rest.length rest = .error e) := by
  cases left with
  | nil =>
    cases h
    exact .inl rfl
  | cons c t =>
    by_cases hend : (c :: t).head? = some (.char '>')
    · -- the tag ends here
      obtain rfl := Option.some.inj hend
      cases h
    cases hslash : (text "/>").isPrefixOf (c :: t) with
    | true =>
      rw [eq_append_of_isPrefixOf hslash] at h
      cases h
    | false =>
      cases hpart : readPart inner start (c :: t) with
      | error e' =>
        rw [readParts_of_error hend hslash hpart] at h
        exact .inl (congrArg _ (Except.error.inj h))
      | ok taken =>
        rw [readParts_of_part hinner hslash hpart] at h
        exact .inr ⟨taken.value, taken.left, rfl, rfl, map_eq_error_iff.1 h⟩

theorem name_prefix_of_readOpenTag {body behind : Text} {opening : OpenTag}
    (h : readOpenTag inner (.char '<' :: body) = .ok ⟨opening, behind⟩) :
    opening.name <+: body := by
  obtain ⟨⟨⟨selfClosing, parts⟩, rest⟩, -, heq⟩ := exists_of_map_eq_ok h
  have hname : (body.span isTagNamePart).1 = opening.name :=
    congrArg (fun taken => taken.value.name) heq
  rw [← hname, List.span_eq_takeWhile_dropWhile]
  exact List.takeWhile_prefix _

theorem readTag_eq_error {body : Text}
    (h : readTag inner opened (.char '<' :: body) = .error e) :
    (∃ name, e = .fault (.unterminatedElement name) (.char '<' :: body) ∧ name <+: body) ∨
    (∃ rest, body = .char '>' :: rest ∧
      readContent inner ([] :: opened) rest.length rest = .error e) ∨
    ((text "<>").isPrefixOf (.char '<' :: body) = false ∧
      (readOpenTag inner (.char '<' :: body) = .error e ∨
      (∃ opening behind, readOpenTag inner (.char '<' :: body) = .ok ⟨opening, behind⟩ ∧
        opening.opensNothing = false ∧ isRaw opening.name = false ∧
          readContent inner (opening.name :: opened) behind.length behind = .error e))) := by
  unfold readTag at h
  split at h
  · next hfragment =>
    obtain ⟨rest, rfl⟩ := eq_cons_of_fragment hfragment
    exact .inr (.inl ⟨rest, rfl, map_eq_error_iff.1 h⟩)
  · next hfragment =>
    have named := Bool.eq_false_iff.2 hfragment
    rcases eq_error_of_bind_eq_error h with hopening | ⟨⟨opening, behind⟩, hopening, h⟩
    · exact .inr (.inr ⟨named, .inl hopening⟩)
    simp only at h
    split at h
    · cases h
    · next hopens =>
      split at h
      · split at h
        · exact .inl ⟨_, (Except.error.inj h).symm, name_prefix_of_readOpenTag hopening⟩
        · cases h
      · next hraw =>
        exact .inr (.inr ⟨named, .inr ⟨opening, behind, hopening, Bool.eq_false_iff.2 hopens,
          Bool.eq_false_iff.2 hraw, map_eq_error_iff.1 h⟩⟩)

/-- Content cannot be read if the next thing in it cannot, or what is behind that. -/
theorem readContent_eq_error {levels : Nat}
    (h : readContent (readers levels) opened left.length left = .error e) :
    readItem (readers levels) opened left = .error e ∨
    (∃ node rest, left ≠ [] ∧ readItem (readers levels) opened left = .ok ⟨.node node, rest⟩ ∧
      readContent (readers levels) opened rest.length rest = .error e) := by
  have left_ne : left ≠ [] := by
    rintro rfl
    cases h
  cases hitem : readItem (readers levels) opened left with
  | error e' =>
    rw [readContent_of_error left_ne hitem] at h
    exact .inl (congrArg _ (Except.error.inj h))
  | ok taken =>
    obtain ⟨steps, hsteps⟩ := Nat.exists_eq_add_one.2 (List.length_pos_iff.2 left_ne)
    obtain ⟨item, rest⟩ := taken
    cases item with
    | closing inside =>
      rw [hsteps, readContent_closing left_ne hitem] at h
      cases h
    | closingOuter =>
      rw [hsteps, readContent_closingOuter left_ne hitem] at h
      cases h
    | node node =>
      rw [readContent_of_item left_ne hitem] at h
      exact .inr ⟨node, rest, left_ne, rfl, map_eq_error_iff.1 h⟩

/-- Where the failure of a call comes from: the call finds a fault in the page, or it may not go
down any further, or a call that it makes fails in this way. -/
inductive Call.FailureOrigin (page : Text) (frames : List Frame) (c : Call) : Failure → Prop
  | fault {cause : Fault} {place : Text} (inPage : place <:+ page)
      (names : cause.Names page place) : FailureOrigin page frames c (.fault cause place)
  | tooDeep (levels_eq : c.levels = 0) (left_ne : c.left ≠ []) :
      FailureOrigin page frames c .tooDeep
  | call {frames' : List Frame} {c' : Call} {e : Failure} (makes : Makes frames c frames' c')
      (fails : c'.outcome = .error e) : FailureOrigin page frames c e

section Origins

variable {page : Text} {frames : List Frame} {levels : Nat}

theorem failureOrigin_content (h : left <:+ page)
    (fails : (Call.content levels opened left).outcome = .error e) :
    (Call.content levels opened left).FailureOrigin page frames e := by
  rcases readContent_eq_error (map_eq_error_iff.1 fails) with hitem |
    ⟨node, rest, left_ne, hitem, hread⟩
  · rcases readItem_eq_error page hitem with ⟨cause, rfl, names⟩ | ⟨opens, htag⟩ |
      ⟨code, rfl, hcode⟩
    · exact .fault h names
    · exact .call (.tagInContent opens) (map_eq_error_iff.2 htag)
    · exact .call .expressionInContent (map_eq_error_iff.2 hcode)
  · exact .call (.item left_ne hitem) (map_eq_error_iff.2 hread)

theorem failureOrigin_tag (h : left <:+ page) (opens : opensTag left = true)
    (fails : (Call.tag levels opened left).outcome = .error e) :
    (Call.tag levels opened left).FailureOrigin page frames e := by
  obtain ⟨body, rfl⟩ := eq_cons_of_opensTag opens
  have hread := map_eq_error_iff.1 fails
  cases levels with
  | zero =>
    cases hread
    exact .tooDeep rfl (List.cons_ne_nil _ _)
  | succ levels =>
    rcases readTag_eq_error hread with ⟨name, rfl, hname⟩ | ⟨rest, rfl, hcontent⟩ |
      ⟨named, hopening | ⟨opening, behind, hopening, opens, kind, hcontent⟩⟩
    · exact .fault h (List.cons_prefix_cons.2 ⟨rfl, hname⟩)
    · exact .call .fragment (map_eq_error_iff.2 hcontent)
    · rw [readOpenTag_eq] at hopening
      exact .call (.attributes named) (map_eq_error_iff.2 (map_eq_error_iff.1 hopening))
    · exact .call (.children named hopening opens kind) (map_eq_error_iff.2 hcontent)

theorem failureOrigin_parts (hstart : start <:+ page) (h : left <:+ page)
    (begins : opensTag start = true) (fails : (Call.parts levels start left).outcome = .error e) :
    (Call.parts levels start left).FailureOrigin page frames e := by
  rcases readParts_eq_error (readers_faithful levels) (map_eq_error_iff.1 fails) with hpart |
    ⟨part, rest, slash, hpart, hread⟩
  · rcases readPart_eq_error h hpart with rfl | ⟨cause, place, rfl, hplace, names⟩ |
      ⟨code, rfl, hcode⟩ |
      ⟨name, behind, blankBefore, value, blankAfter, code, named, name_ne, before, after, hcode⟩
    · exact .fault hstart begins
    · exact .fault (hplace.trans h) names
    · exact .call .attributeCode (map_eq_error_iff.2 hcode)
    · exact .call (.valueCode named name_ne before after) (map_eq_error_iff.2 hcode)
  · exact .call (.part slash hpart) (map_eq_error_iff.2 hread)

theorem failureOrigin_expression (hbrace : left.head? = some (.char '{'))
    (fails : (Call.expression levels left).outcome = .error e) :
    (Call.expression levels left).FailureOrigin page frames e := by
  obtain ⟨code, rfl⟩ := List.head?_eq_some_iff.1 hbrace
  have hread := map_eq_error_iff.1 fails
  cases levels with
  | zero =>
    cases hread
    exact .tooDeep rfl (List.cons_ne_nil _ _)
  | succ levels =>
    exact .call .code (map_eq_error_iff.2 ((readExpression_eq code).symm.trans hread))

theorem failureOrigin_code {depth : Nat} {before : Text} (hstart : start <:+ page)
    (h : left <:+ page) (begins : [.char '{'] <+: start)
    (fails : (Call.code levels start depth before left).outcome = .error e) :
    (Call.code levels start depth before left).FailureOrigin page frames e := by
  have hread := map_eq_error_iff.1 fails
  rw [readCode_eq (readers_faithful levels)] at hread
  rcases eq_error_of_bind_eq_error hread with hstep | ⟨⟨⟨pieces, state⟩, rest⟩, hstep, hread⟩
  · rcases readCodeStep_eq_error hstep with rfl | ⟨rfl, names⟩ |
      ⟨quote, rest, rfl, quotes, hstring⟩ | ⟨opens, allowed, htag⟩
    · exact .fault hstart begins
    · exact .fault h names
    · exact .call (.string quotes) (map_eq_error_iff.2 hstring)
    · exact .call (.tagInCode opens allowed) (map_eq_error_iff.2 htag)
  · -- a step that was taken does not fail, so the code behind it does
    cases state with
    | none => cases hread
    | some state =>
      exact .call (.codeStep hstep) (map_eq_error_iff.2 (prepend_eq_error_iff.1 hread))

theorem failureOrigin_string {quote : CodePoint} (hstart : start <:+ page)
    (begins : quote.isAmong ['"', '\'', '`'] = true ∧ [quote] <+: start)
    (fails : (Call.string levels quote start left).outcome = .error e) :
    (Call.string levels quote start left).FailureOrigin page frames e := by
  have hread := map_eq_error_iff.1 fails
  rw [readString_eq (readers_faithful levels)] at hread
  rcases eq_error_of_bind_eq_error hread with hstep | ⟨⟨⟨taken, state⟩, rest⟩, hstep, hread⟩
  · rcases readStringStep_eq_error hstep with rfl | ⟨code, rfl, rfl, hcode⟩
    · exact .fault hstart ⟨quote, begins⟩
    · exact .call .templateCode (map_eq_error_iff.2 hcode)
  · cases state with
    | none => cases hread
    | some state =>
      exact .call (.stringStep hstep) (map_eq_error_iff.2 (prepend_eq_error_iff.1 hread))

end Origins

theorem Call.Placed.failureOrigin {page : Text} {c : Call} (h : c.Placed page)
    (begins : c.Begins) (frames : List Frame) (fails : c.outcome = .error e) :
    c.FailureOrigin page frames e := by
  cases c with
  | content levels opened left => exact failureOrigin_content h fails
  | tag levels opened left => exact failureOrigin_tag h.1 h.2 fails
  | parts levels start left => exact failureOrigin_parts h.1 h.left_suffix begins fails
  | expression levels left => exact failureOrigin_expression h.2 fails
  | code levels start depth before left => exact failureOrigin_code h.1 h.left_suffix begins fails
  | string levels quote start left => exact failureOrigin_string h.1 begins fails

end VisibleText.Markup
