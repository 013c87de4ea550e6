import VisibleText.Proofs.TagLocality

/-!
# How far the reader of content looks ahead

Three things in content end where something else starts. The raw content of an element ends with
its closing tag, and no other text behind that tag makes another one appear before it
(`rawContent?_local`). A run of text ends before something that ends text (`TextEnds`), and does
not change as long as something of the kind follows (`textRun_local`). A closing tag ends with its
`>` (`readItem_closing`).

The next thing in content is read again when other text follows if it is ended as before
(`readItem_local`).
-/

set_option autoImplicit false

namespace VisibleText.Markup

open VisibleText.Text (after? cutAt?)

/-! ## Raw content -/

theorem foldedForm_bracket {c : CodePoint} (h : foldedForm c = .char '>') :
    smallForm c = .char '>' := by
  unfold foldedForm at h
  split at h
  · cases h
  · cases h
  · cases h
  · exact h

/-- In whatever case the name of a raw element is written, `>` has no place in it. -/
theorem bracket_not_mem_of_isRaw {name : Text} (h : isRaw name = true) :
    CodePoint.char '>' ∉ name.map foldedForm := by
  simp only [isRaw, Bool.and_eq_true] at h
  have hsmall : CodePoint.char '>' ∉ smallName name := by
    have hmem := List.contains_iff_mem.1 h.2
    generalize smallName name = small at hmem
    revert small
    decide
  intro hmem
  obtain ⟨c, hc, hfolded⟩ := List.mem_map.1 hmem
  exact hsmall (List.mem_map.2 ⟨c, hc, foldedForm_bracket hfolded⟩)

theorem afterNameInAnyCase?_eq_some_iff {name t behind : Text} :
    afterNameInAnyCase? name t = some behind ↔
      ∃ named : Text, t = named ++ behind ∧ named.map foldedForm = name.map foldedForm := by
  induction name generalizing t with
  | nil =>
    constructor
    · intro h
      cases h
      exact ⟨[], rfl, rfl⟩
    · rintro ⟨named, rfl, hnamed⟩
      rw [List.map_eq_nil_iff.1 hnamed]
      rfl
  | cons n name ih =>
    constructor
    · intro h
      cases t with
      | nil => cases h
      | cons c t =>
        unfold afterNameInAnyCase? at h
        split at h
        · next hc =>
          obtain ⟨named, rfl, hnamed⟩ := ih.1 h
          exact ⟨c :: named, rfl, by rw [List.map_cons, List.map_cons, hc, hnamed]⟩
        · cases h
    · rintro ⟨named, rfl, hnamed⟩
      cases named with
      | nil => cases hnamed
      | cons c named =>
        obtain ⟨hc, hnamed⟩ := List.cons.inj hnamed
        rw [List.cons_append, afterNameInAnyCase?, if_pos hc.symm]
        exact ih.2 ⟨named, rfl, hnamed⟩

/-- What the closing tag of a raw element holds: its name, in whatever case, and blanks. -/
def Closes (name inside : Text) : Prop :=
  ∃ named blanks : Text, inside = named ++ blanks ∧
    named.map foldedForm = name.map foldedForm ∧ blanks.isBlank = true

/-- What the closing tag of a raw element at the start of a text holds, and what is behind it. -/
def closingAt? (name t : Text) : Option (Text × Text) := do
  let inner ← after? (text "</") t
  let behind ← afterNameInAnyCase? name inner
  match behind.dropWhile CodePoint.isBlank with
  | .char '>' :: left => some (inner.take (inner.length - left.length - 1), left)
  | _ => none

theorem rawContent?_cons (name : Text) (c : CodePoint) (rest : Text) :
    rawContent? name (c :: rest) =
      match closingAt? name (c :: rest) with
      | some (inner, left) => some ([], inner, left)
      | none => (rawContent? name rest).map fun found => (c :: found.1, found.2) := by
  change (match closingAt? name (c :: rest) with
    | some (inner, left) => some ([], inner, left)
    | none => _) = _
  cases closingAt? name (c :: rest) with
  | some found => rfl
  | none => cases rawContent? name rest <;> rfl

theorem closingAt?_eq_some_iff {name t inside rest : Text} :
    closingAt? name t = some (inside, rest) ↔
      t = closingSource (some inside) ++ rest ∧ Closes name inside := by
  simp only [closingAt?, Option.bind_eq_bind, Option.bind_eq_some_iff]
  constructor
  · rintro ⟨inner, hopen, behind, hname, hend⟩
    obtain ⟨named, rfl, hnamed⟩ := afterNameInAnyCase?_eq_some_iff.1 hname
    rw [after?_eq_some_iff] at hopen
    subst hopen
    split at hend
    · next left hleft =>
      cases hend
      have hbehind := List.takeWhile_append_dropWhile (p := CodePoint.isBlank) (l := behind)
      rw [hleft] at hbehind
      -- the closing tag holds the name and the blanks behind it
      have hinside : (named ++ behind).take ((named ++ behind).length - rest.length - 1) =
          named ++ behind.takeWhile CodePoint.isBlank := by
        conv_lhs => rw [← hbehind, ← List.append_assoc]
        refine List.take_left' ?_
        simp only [List.length_append, List.length_cons]
        omega
      rw [hinside]
      refine ⟨?_, named, _, rfl, hnamed, List.all_takeWhile⟩
      conv_lhs => rw [← hbehind]
      simp [closingSource, text]
    · cases hend
  · rintro ⟨rfl, named, blanks, rfl, hnamed, hblanks⟩
    refine ⟨named ++ (blanks ++ .char '>' :: rest), after?_eq_some_iff.2 (by
      simp [closingSource, text]), blanks ++ .char '>' :: rest,
      afterNameInAnyCase?_eq_some_iff.2 ⟨named, rfl, hnamed⟩, ?_⟩
    have hstop : ∀ c, (CodePoint.char '>' :: rest).head? = some c → c.isBlank = false := by
      rintro c ⟨⟩
      decide
    have hspan := span_of_all hblanks hstop
    rw [List.span_eq_takeWhile_dropWhile, Prod.mk.injEq] at hspan
    rw [hspan.2]
    have hinside : (named ++ (blanks ++ .char '>' :: rest)).take
        ((named ++ (blanks ++ .char '>' :: rest)).length - rest.length - 1) = named ++ blanks := by
      rw [← List.append_assoc]
      refine List.take_left' ?_
      simp only [List.length_append, List.length_cons]
      omega
    simp only [hinside]

theorem bracket_not_mem_of_closes {name inside : Text}
    (hname : CodePoint.char '>' ∉ name.map foldedForm) (h : Closes name inside) : CodePoint.char '>' ∉ inside := by
  obtain ⟨named, blanks, rfl, hnamed, hblanks⟩ := h
  rw [List.mem_append, not_or]
  constructor
  · intro hmem
    rw [← hnamed] at hname
    exact hname (List.mem_map.2 ⟨_, hmem, rfl⟩)
  · intro hmem
    exact absurd (List.all_eq_true.1 hblanks _ hmem) (by decide)

/-- Before its closing tag, no closing tag of a raw element appears because other text follows. -/
theorem rawContent?_local {name t raw inside rest : Text}
    (hname : CodePoint.char '>' ∉ name.map foldedForm)
    (h : rawContent? name t = some (raw, inside, rest)) (rest' : Text) :
    rawContent? name (raw ++ (closingSource (some inside) ++ rest')) =
      some (raw, inside, rest') := by
  induction t generalizing raw with
  | nil => cases h
  | cons c t ih =>
    rw [rawContent?_cons] at h
    split at h
    · next inner left hclosing =>
      cases h
      obtain ⟨-, hcloses⟩ := closingAt?_eq_some_iff.1 hclosing
      have hclosing' : closingAt? name
          (.char '<' :: (.char '/' :: inside ++ [.char '>'] ++ rest')) = some (inside, rest') :=
        closingAt?_eq_some_iff.2 ⟨rfl, hcloses⟩
      change rawContent? name (.char '<' :: (.char '/' :: inside ++ [.char '>'] ++ rest')) = _
      rw [rawContent?_cons, hclosing']
    · next hnone =>
      obtain ⟨⟨content, inside', rest₁⟩, hcontent, hfound⟩ := Option.map_eq_some_iff.1 h
      cases hfound
      have ht := rawContent?_eq_append hcontent
      -- a closing tag that starts here would end with a bracket that both texts have
      have hagree : Agree IsBracket (c :: (content ++ (closingSource (some inside) ++ rest')))
          (c :: t) := by
        have hmem : CodePoint.char '>' ∈ c :: content ++ closingSource (some inside) := by
          simp [closingSource]
        rw [ht, ← List.append_assoc, ← List.append_assoc]
        exact Agree.of_mem hmem isBracket rest' rest
      have hnone' : closingAt? name (c :: (content ++ (closingSource (some inside) ++ rest'))) =
          none := by
        refine Option.eq_none_iff_forall_ne_some.2 fun found hfound => ?_
        obtain ⟨inside', behind⟩ := found
        obtain ⟨hleft, hcloses⟩ := closingAt?_eq_some_iff.1 hfound
        have hbracket := bracket_not_mem_of_closes hname hcloses
        have hfront : ∀ d ∈ CodePoint.char '<' :: .char '/' :: inside', ¬ IsBracket d := by
          rintro d hd rfl
          simp [hbracket] at hd
        have hsource : closingSource (some inside') ++ behind =
            (.char '<' :: .char '/' :: inside') ++ .char '>' :: behind := by
          simp [closingSource]
        rw [hleft, hsource] at hagree
        obtain ⟨behind', hbehind⟩ := hagree.exists_eq_append hfront
        have hsome := closingAt?_eq_some_iff.2
          ⟨show c :: t = closingSource (some inside') ++ behind' by simp [hbehind, closingSource],
            hcloses⟩
        rw [hnone] at hsome
        cases hsome
      rw [List.cons_append, rawContent?_cons, hnone']
      simp only [ih hcontent, Option.map_some]

/-! ## Runs of text -/

/-- A run of text ends before this: the page ends, or something that ends text follows. -/
def TextEnds (rest : Text) : Prop := rest = [] ∨ endsText rest = true

theorem TextEnds.head_cases {rest : Text} (h : TextEnds rest) :
    rest = [] ∨ (∃ t, rest = .char '{' :: t) ∨
      ∃ c t, rest = .char '<' :: c :: t ∧ (c.isAmong ['/', '!', '>'] || c.isWordSign) = true := by
  rcases h with hnil | hends
  · exact .inl hnil
  · unfold endsText at hends
    split at hends
    · exact .inr (.inl ⟨_, rfl⟩)
    · exact .inr (.inr ⟨_, _, rfl, hends⟩)
    · cases hends

/-- An angle bracket before something that ends text is text itself. -/
theorem endsText_cons_of_textEnds {c : CodePoint} {rest : Text} (hc : c ≠ .char '{')
    (h : TextEnds rest) : endsText (c :: rest) = false := by
  by_cases hbracket : c = .char '<'
  · subst hbracket
    rcases h.head_cases with rfl | ⟨t, rfl⟩ | ⟨d, t, rfl, -⟩
    · rfl
    · exact (by decide : ((CodePoint.char '{').isAmong ['/', '!', '>'] ||
        (CodePoint.char '{').isWordSign) = false)
    · exact (by decide : ((CodePoint.char '<').isAmong ['/', '!', '>'] ||
        (CodePoint.char '<').isWordSign) = false)
  · unfold endsText
    split
    · next hcons => exact absurd (List.cons.inj hcons).1 hc
    · next hcons => exact absurd (List.cons.inj hcons).1 hbracket
    · rfl

theorem endsText_congr {c : CodePoint} {t t' : Text} (hhead : t'.head? = t.head?) :
    endsText (c :: t') = endsText (c :: t) := by
  cases t with
  | nil =>
    cases t' with
    | nil => rfl
    | cons d t' => cases hhead
  | cons d t =>
    cases t' with
    | nil => cases hhead
    | cons d' t' =>
      cases hhead
      unfold endsText
      split <;> simp_all

theorem endsText_append_congr {s : Text} (hlength : 2 ≤ s.length) (t t' : Text) :
    endsText (s ++ t') = endsText (s ++ t) := by
  rcases s with - | ⟨c, - | ⟨d, s⟩⟩
  · exact absurd hlength (by decide)
  · exact absurd hlength (Nat.not_succ_le_self 1)
  · exact endsText_congr rfl

theorem textRun_tail_ends (t : Text) : TextEnds (textRun.tail t).2 := by
  induction t with
  | nil => exact .inl rfl
  | cons c t ih =>
    unfold textRun.tail
    split
    · next hends => exact .inr hends
    · exact ih

theorem textRun_ends (t : Text) : TextEnds (textRun t).2 := by
  cases t with
  | nil => exact .inl rfl
  | cons c t => exact textRun_tail_ends t

theorem textRun_tail_of_textEnds {rest : Text} (h : TextEnds rest) :
    textRun.tail rest = ([], rest) := by
  cases rest with
  | nil => rfl
  | cons c rest =>
    rcases h with hnil | hends
    · cases hnil
    · rw [textRun.tail, if_pos hends]

theorem textRun_tail_local {run rest rest' : Text} (h : textRun.tail (run ++ rest) = (run, rest))
    (hrest : TextEnds rest') : textRun.tail (run ++ rest') = (run, rest') := by
  induction run with
  | nil => exact textRun_tail_of_textEnds hrest
  | cons c run ih =>
    simp only [List.cons_append, textRun.tail] at h ⊢
    split at h
    · cases h
    · next hgoes =>
      rw [Prod.mk.injEq] at h
      have hread := ih (Prod.ext (List.cons.inj h.1).2 h.2)
      have hgoes' : endsText (c :: (run ++ rest')) = false := by
        cases run with
        | nil =>
          refine endsText_cons_of_textEnds ?_ hrest
          rintro rfl
          exact hgoes rfl
        | cons d run =>
          have hcongr : endsText (c :: (d :: run ++ rest')) = endsText (c :: (d :: run ++ rest)) :=
            endsText_congr rfl
          rw [hcongr]
          exact Bool.eq_false_iff.2 hgoes
      simp only [hgoes', Bool.false_eq_true, if_false, hread]

/-- A run of text stays the same as long as something ends it. -/
theorem textRun_local {run rest rest' : Text} (run_ne : run ≠ [])
    (h : textRun (run ++ rest) = (run, rest)) (hrest : TextEnds rest') :
    textRun (run ++ rest') = (run, rest') := by
  obtain ⟨c, run, rfl⟩ := List.exists_cons_of_ne_nil run_ne
  simp only [List.cons_append, textRun, Prod.mk.injEq, List.cons.injEq, true_and] at h
  simp only [List.cons_append, textRun, textRun_tail_local (Prod.ext h.1 h.2) hrest]

/-! ## Items -/

variable {inner : Readers} {opened : List Text}

/-- A closing tag is read the same whatever follows it. -/
theorem readItem_closing {inside : Text} (bracket : CodePoint.char '>' ∉ inside) (rest : Text) :
    readItem inner opened (closingSource (some inside) ++ rest) =
      if opened.head? = some inside.trim then .ok ⟨.closing inside, rest⟩
      else if opened.contains inside.trim then
        .ok ⟨.closingOuter, closingSource (some inside) ++ rest⟩
      else
        .error
          (.fault (.unexpectedClosingTag inside.trim) (closingSource (some inside) ++ rest)) := by
  have hcut := cutAt?_of_not_mem bracket rest
  have hleft : closingSource (some inside) ++ rest =
      .char '<' :: .char '/' :: (inside ++ .char '>' :: rest) := by
    simp [closingSource]
  have hitem (t : Text) : readItem inner opened (.char '<' :: .char '/' :: t) =
      readClosingTag opened (.char '<' :: .char '/' :: t) := rfl
  rw [hleft, hitem]
  simp only [readClosingTag, List.drop_succ_cons, List.drop_zero, readPast, hcut]
  rfl

/-- Where a tag opens, its reader is called. -/
theorem readItem_of_opensTag_eq {left : Text} (hopens : opensTag left = true) :
    readItem inner opened left =
      (inner.tag opened left).map fun taken => ⟨.node taken.value, taken.left⟩ := by
  obtain ⟨body, rfl⟩ := eq_cons_of_opensTag hopens
  cases body with
  | nil => cases hopens
  | cons c body =>
    have hletter : (c == .char '>' || c.isLetter) = true := hopens
    have hc : c ≠ .char '!' ∧ c ≠ .char '/' := by
      constructor <;>
      · rintro rfl
        exact absurd hletter (by decide)
    have hcomment : (text "<!--").isPrefixOf (.char '<' :: c :: body) = false := by
      simp [text, List.isPrefixOf, hc.1.symm]
    have hdoctype : (text "<!").isPrefixOf (.char '<' :: c :: body) = false := by
      simp [text, List.isPrefixOf, hc.1.symm]
    have hclose : (text "</").isPrefixOf (.char '<' :: c :: body) = false := by
      simp [text, List.isPrefixOf, hc.2.symm]
    unfold readItem
    simp only [hcomment, hdoctype, hclose, hopens, Bool.false_eq_true, if_false, if_true]
    cases inner.tag opened (.char '<' :: c :: body) <;> rfl

/-- A tag stands where it opens. -/
theorem readItem_of_opensTag {left rest : Text} {node : Node} (hopens : opensTag left = true)
    (h : inner.tag opened left = .ok ⟨node, rest⟩) :
    readItem inner opened left = .ok ⟨.node node, rest⟩ := by
  rw [readItem_of_opensTag_eq hopens, h]
  rfl

/-- Text stands where nothing else does. -/
theorem readItem_text {run rest : Text} (hdoctype : (text "<!").isPrefixOf (run ++ rest) = false)
    (hclose : (text "</").isPrefixOf (run ++ rest) = false)
    (hopens : opensTag (run ++ rest) = false) (hbrace : (run ++ rest).head? ≠ some (.char '{'))
    (hrun : textRun (run ++ rest) = (run, rest)) :
    readItem inner opened (run ++ rest) = .ok ⟨.node (.text run), rest⟩ := by
  have hcomment : (text "<!--").isPrefixOf (run ++ rest) = false := by
    rw [Bool.eq_false_iff]
    intro hprefix
    obtain ⟨more, hmore⟩ := List.isPrefixOf_iff_prefix.1 hprefix
    rw [← hmore] at hdoctype
    cases hdoctype
  unfold readItem
  simp only [hcomment, hdoctype, hclose, hopens, hbrace, hrun, Bool.false_eq_true, if_false]

/-- What a reader of content does where a node stands. -/
theorem readItem_node_cases {left rest : Text} {node : Node}
    (h : readItem inner opened left = .ok ⟨.node node, rest⟩) :
    (∃ value, node = .comment value ∧
      readPast (text "-->") .unterminatedComment left (left.drop 4) = .ok ⟨value, rest⟩) ∨
    (∃ value, node = .doctype value ∧ (text "<!--").isPrefixOf left = false ∧
      readPast [.char '>'] .unterminatedDoctype left (left.drop 2) = .ok ⟨value, rest⟩) ∨
    (opensTag left = true ∧ inner.tag opened left = .ok ⟨node, rest⟩) ∨
    (∃ pieces, node = .expression pieces ∧ left.head? = some (.char '{') ∧
      inner.expression left = .ok ⟨pieces, rest⟩) ∨
    (∃ run, node = .text run ∧ (text "<!").isPrefixOf left = false ∧
      (text "</").isPrefixOf left = false ∧ opensTag left = false ∧
        left.head? ≠ some (.char '{') ∧ textRun left = (run, rest)) := by
  unfold readItem at h
  split at h
  · obtain ⟨⟨value, behind⟩, hvalue, h⟩ := exists_of_bind_eq_ok h
    cases h
    exact .inl ⟨value, rfl, hvalue⟩
  split at h
  · -- the mark of a comment starts like that of a doctype
    next hcomment _ =>
    obtain ⟨⟨value, behind⟩, hvalue, h⟩ := exists_of_bind_eq_ok h
    cases h
    exact .inr (.inl ⟨value, rfl, Bool.eq_false_iff.2 hcomment, hvalue⟩)
  split at h
  · -- a closing tag is no node
    exact absurd rfl ((readClosingTag_item h).1 node)
  split at h
  · next hopens =>
    obtain ⟨⟨found, behind⟩, hfound, h⟩ := exists_of_bind_eq_ok h
    cases h
    exact .inr (.inr (.inl ⟨hopens, hfound⟩))
  split at h
  · next hbrace =>
    obtain ⟨⟨pieces, behind⟩, hpieces, h⟩ := exists_of_bind_eq_ok h
    cases h
    exact .inr (.inr (.inr (.inl ⟨pieces, rfl, hbrace, hpieces⟩)))
  · next hdoctype hclose hopens hbrace =>
    cases h
    exact .inr (.inr (.inr (.inr ⟨_, rfl, Bool.eq_false_iff.2 hdoctype,
      Bool.eq_false_iff.2 hclose, Bool.eq_false_iff.2 hopens, hbrace, rfl⟩)))

/-- No mark of two code points comes about behind text that ends. -/
theorem isPrefixOf_pair_of_textEnds {a b c : CodePoint} {run rest rest' : Text}
    (hb : b ≠ .char '{' ∧ b ≠ .char '<') (h : [a, b].isPrefixOf (c :: run ++ rest) = false)
    (hrest : TextEnds rest') : [a, b].isPrefixOf (c :: run ++ rest') = false := by
  cases run with
  | cons d run => exact h
  | nil =>
    rcases hrest.head_cases with rfl | ⟨t, rfl⟩ | ⟨d, t, rfl, -⟩
    · simp [List.isPrefixOf]
    · simp [List.isPrefixOf, hb.1]
    · simp [List.isPrefixOf, hb.2]

theorem opensTag_of_textEnds {c : CodePoint} {run rest rest' : Text}
    (h : opensTag (c :: run ++ rest) = false) (hrest : TextEnds rest') :
    opensTag (c :: run ++ rest') = false := by
  cases run with
  | cons d run =>
    rw [← h]
    exact opensTag_congr rfl
  | nil =>
    have hno {d : CodePoint} (hd : (d == .char '>' || d.isLetter) = false) (t : Text) :
        opensTag (c :: d :: t) = false := by
      unfold opensTag
      split
      · next heq =>
        obtain ⟨-, htail⟩ := List.cons.inj heq
        obtain ⟨rfl, -⟩ := List.cons.inj htail
        exact hd
      · rfl
    rcases hrest.head_cases with rfl | ⟨t, rfl⟩ | ⟨d, t, rfl, -⟩
    · unfold opensTag
      split
      · next heq => cases (List.cons.inj heq).2
      · rfl
    · exact hno (by decide) t
    · exact hno (by decide) (d :: t)

theorem Node.exists_source_of_isTag {node : Node} (h : node.isTag = true) :
    ∃ c s, node.source = .char '<' :: c :: s := by
  cases node with
  | text | comment | doctype | expression | frontmatter => cases h
  | tag opening children closing =>
    have hending : opening.ending ≠ [] := by
      unfold OpenTag.ending
      split <;> simp [VisibleText.text]
    obtain ⟨c, s, hs⟩ := List.exists_cons_of_ne_nil
      (List.append_ne_nil_of_right_ne_nil (opening.name ++ partsSource opening.parts) hending)
    refine ⟨c, s ++ (nodesSource children ++ closingSource closing), ?_⟩
    have hsource : (Node.tag opening children closing).source = .char '<' ::
        (opening.name ++ partsSource opening.parts ++ opening.ending ++
          (nodesSource children ++ closingSource closing)) := by
      simp [Node.source, OpenTag.source]
    rw [hsource, hs]
    rfl
  | fragment children closing => exact ⟨_, _, rfl⟩

/-- A node is read again whatever follows it, if text is ended and a tag that was left open meets
the same end. -/
theorem readItem_local (hinner : inner.Local) {node : Node} {rest rest' : Text}
    (hleft : node.source ≠ [])
    (h : readItem inner opened (node.source ++ rest) = .ok ⟨.node node, rest⟩)
    (htext : ∀ run, node = .text run → TextEnds rest')
    (hopen : node.isUnclosed = true → SameEnd rest rest') :
    readItem inner opened (node.source ++ rest') = .ok ⟨.node node, rest'⟩ := by
  rcases readItem_node_cases h with ⟨value, rfl, hvalue⟩ | ⟨value, rfl, hcomment, hvalue⟩ |
    ⟨hopens, hnode⟩ | ⟨pieces, rfl, hbrace, hpieces⟩ |
    ⟨run, rfl, hdoctype, hclose, hopens, hbrace, hrun⟩
  -- comments and doctypes end with the first mark behind them
  · have hsource (t : Text) : (Node.comment value).source ++ t =
        text "<!--" ++ (value ++ text "-->" ++ t) := by
      simp [Node.source]
    have hdrop (t : Text) : (text "<!--" ++ t).drop 4 = t := rfl
    rw [hsource, hdrop] at hvalue
    have hread := readPast_local (by simp [text]) hvalue .unterminatedComment
      (text "<!--" ++ (value ++ text "-->" ++ rest')) rest'
    have hprefix : (text "<!--").isPrefixOf (text "<!--" ++ (value ++ text "-->" ++ rest')) =
        true := List.isPrefixOf_iff_prefix.2 (List.prefix_append _ _)
    rw [hsource, readItem, if_pos hprefix, hdrop, hread]
    rfl
  · have hsource (t : Text) : (Node.doctype value).source ++ t =
        .char '<' :: .char '!' :: (value ++ [.char '>'] ++ t) := by
      simp [Node.source]
    have hmem : CodePoint.char '>' ∈ (Node.doctype value).source := by simp [Node.source]
    have hagree := Agree.of_mem hmem isBracket rest rest'
    have hcomment' : (text "<!--").isPrefixOf ((Node.doctype value).source ++ rest') = false := by
      rw [← hcomment]
      exact hagree.isPrefixOf (by decide)
    rw [hsource] at hvalue hcomment' ⊢
    have hread := readPast_local (List.cons_ne_nil _ _) hvalue .unterminatedDoctype
      (.char '<' :: .char '!' :: (value ++ [.char '>'] ++ rest')) rest'
    have hprefix : (text "<!").isPrefixOf
        (.char '<' :: .char '!' :: (value ++ [.char '>'] ++ rest')) = true := rfl
    rw [readItem, if_neg (Bool.eq_false_iff.1 hcomment'), if_pos hprefix]
    simp only [List.drop_succ_cons, List.drop_zero, hread]
    rfl
  -- tags and code are local by themselves
  · obtain ⟨c, s, hs⟩ := Node.exists_source_of_isTag (hinner.isTag hnode)
    have hopens' : opensTag (node.source ++ rest') = true := by
      rw [hs] at hopens ⊢
      exact (opensTag_congr rfl).trans hopens
    exact readItem_of_opensTag hopens' (hinner.tag hnode hopen)
  · have hread := hinner.expression hpieces rest'
    exact bind_eq_of_eq_ok hread
  -- text stays text, and stops where it did, before something that ends it
  · have hends := htext run rfl
    change readItem inner opened (run ++ rest') = _
    change run ≠ [] at hleft
    change textRun (run ++ rest) = (run, rest) at hrun
    have hrun' := textRun_local hleft hrun hends
    obtain ⟨c, run, rfl⟩ := List.exists_cons_of_ne_nil hleft
    exact readItem_text (isPrefixOf_pair_of_textEnds (by decide) hdoctype hends)
      (isPrefixOf_pair_of_textEnds (by decide) hclose hends) (opensTag_of_textEnds hopens hends)
      hbrace hrun'

/-- What is read behind text takes two code points at least. -/
theorem two_le_length_of_textEnds (hinner : inner.Local) {left rest : Text} {node : Node}
    (hleft : left = node.source ++ rest) (left_ne : left ≠ []) (hends : TextEnds left)
    (h : readItem inner opened left = .ok ⟨.node node, rest⟩) : 2 ≤ node.source.length := by
  rcases readItem_node_cases h with ⟨value, rfl, -⟩ | ⟨value, rfl, -, -⟩ | ⟨-, hnode⟩ |
    ⟨pieces, rfl, -, -⟩ | ⟨run, rfl, -, -, -, hbrace, hrun⟩
  · simp [Node.source, text]
  · simp [Node.source]
  · obtain ⟨c, s, hs⟩ := Node.exists_source_of_isTag (hinner.isTag hnode)
    simp [hs]
  · simp [Node.source, braced]
  · -- text that ends text starts with an angle bracket and the sign behind it
    rcases hends.head_cases with rfl | ⟨t, rfl⟩ | ⟨c, t, rfl, hc⟩
    · exact absurd rfl left_ne
    · exact absurd rfl hbrace
    · have hgoes : endsText (c :: t) = false := by
        unfold endsText
        split
        · next heq =>
          obtain ⟨rfl, -⟩ := List.cons.inj heq
          exact absurd hc (by decide)
        · next heq =>
          obtain ⟨rfl, -⟩ := List.cons.inj heq
          exact absurd hc (by decide)
        · rfl
      simp only [textRun, textRun.tail, hgoes, Bool.false_eq_true, if_false,
        Prod.mk.injEq] at hrun
      rw [Node.source, ← hrun.1]
      simp

theorem textEnds_of_readItem (hinner : inner.Local) {left run rest : Text}
    (h : readItem inner opened left = .ok ⟨.node (.text run), rest⟩) : TextEnds rest := by
  rcases readItem_node_cases h with ⟨_, ⟨⟩, -⟩ | ⟨_, ⟨⟩, -⟩ | ⟨-, hnode⟩ | ⟨_, ⟨⟩, -⟩ |
    ⟨_, -, -, -, -, -, hrun⟩
  · cases hinner.isTag hnode
  · have hends := textRun_ends left
    rwa [hrun] at hends

end VisibleText.Markup
