import Mathlib.Data.List.Basic
import VisibleText.Proofs.Closing

/-!
# How far the readers look ahead

A reader that has read something would have read the same if other text had followed: it looks at
what it leaves only to see where to stop. Here this is shown for marks and for code. A step of
reading code looks one code point beyond what it takes (`readCodeStep_local`). Code is read up to
its closing brace, so of the text behind it nothing is looked at (`readExpression_local`).

Other readers do look at what follows, but only up to the first code point of some kind. Texts
that are alike up to there (`Agree`) are then read alike.
-/

set_option autoImplicit false

namespace VisibleText.Markup

open VisibleText.Text (after? cutAt?)

theorem bind_eq_of_eq_ok {ε α β : Type} {x : Except ε α} {a : α} {f : α → Except ε β}
    (h : x = .ok a) : x >>= f = f a := by
  rw [h]
  rfl

/-! ## Marks and spans -/

theorem after?_eq_some_iff {mark t rest : Text} : after? mark t = some rest ↔ mark ++ rest = t :=
  List.isPrefixOf?_eq_some_iff_append_eq

/-- Whether a mark stands at the start of a text is seen in as many code points as it has. -/
theorem after?_append_eq_none {mark seen rest : Text} (hlength : mark.length ≤ seen.length)
    (h : after? mark (seen ++ rest) = none) (rest' : Text) :
    after? mark (seen ++ rest') = none := by
  cases hfound : after? mark (seen ++ rest') with
  | none => rfl
  | some behind =>
    rw [after?_eq_some_iff] at hfound
    obtain ⟨more, rfl⟩ : mark <+: seen :=
      List.prefix_of_prefix_length_le ⟨behind, hfound⟩ (List.prefix_append _ _) hlength
    have hmark : after? mark (mark ++ more ++ rest) = some (more ++ rest) := by
      rw [after?_eq_some_iff, List.append_assoc]
    rw [hmark] at h
    cases h

/-- The first occurrence of a mark is the first one whatever follows it. -/
theorem cutAt?_local {mark front rest : Text} (mark_ne : mark ≠ [])
    (h : cutAt? mark (front ++ mark ++ rest) = some (front, rest)) (rest' : Text) :
    cutAt? mark (front ++ mark ++ rest') = some (front, rest') := by
  induction front with
  | nil =>
    obtain ⟨m, mark, rfl⟩ := List.exists_cons_of_ne_nil mark_ne
    have hfound : after? (m :: mark) (m :: (mark ++ rest')) = some rest' := by
      rw [after?_eq_some_iff, List.cons_append]
    rw [List.nil_append, List.cons_append, cutAt?, hfound]
  | cons c front ih =>
    simp only [List.cons_append, cutAt?] at h ⊢
    split at h
    · cases h
    · next hnone =>
      have hlength : mark.length ≤ (c :: (front ++ mark)).length := by
        simp only [List.length_cons, List.length_append]
        omega
      have hnone' : after? mark (c :: (front ++ mark ++ rest')) = none :=
        after?_append_eq_none hlength hnone rest'
      rw [hnone']
      split at h
      · next found hfound =>
        cases h
        rw [ih hfound]
      · cases h

theorem readPast_local {mark start front rest : Text} {fault : Fault} (mark_ne : mark ≠ [])
    (h : readPast mark fault start (front ++ mark ++ rest) = .ok ⟨front, rest⟩)
    (fault' : Fault) (start' rest' : Text) :
    readPast mark fault' start' (front ++ mark ++ rest') = .ok ⟨front, rest'⟩ := by
  unfold readPast at h ⊢
  split at h
  · next hcut =>
    cases h
    rw [cutAt?_local mark_ne hcut rest']
  · cases h

/-- A span takes what satisfies the test, up to something that does not. -/
theorem span_of_all {p : CodePoint → Bool} {seen rest : Text} (hseen : seen.all p = true)
    (hrest : ∀ c, rest.head? = some c → p c = false) :
    List.span p (seen ++ rest) = (seen, rest) := by
  rw [List.span_eq_takeWhile_dropWhile,
    List.takeWhile_append_of_pos (List.all_eq_true.1 hseen),
    List.dropWhile_append_of_pos (List.all_eq_true.1 hseen)]
  cases rest with
  | nil => rw [List.takeWhile_nil, List.dropWhile_nil, List.append_nil]
  | cons c rest =>
    have hc : ¬ p c = true := by simp [hrest c rfl]
    rw [List.takeWhile_cons_of_neg hc, List.dropWhile_cons_of_neg hc, List.append_nil]

theorem of_span_eq {p : CodePoint → Bool} {t seen rest : Text} (h : t.span p = (seen, rest)) :
    seen.all p = true ∧ ∀ c, rest.head? = some c → p c = false := by
  rw [List.span_eq_takeWhile_dropWhile, Prod.mk.injEq] at h
  obtain ⟨rfl, rfl⟩ := h
  refine ⟨List.all_takeWhile, fun c hc => ?_⟩
  have hstop := List.head?_dropWhile_not p t
  rw [hc] at hstop
  simpa using hstop

/-- A span that ends before the end of the text ends at the next code point. -/
theorem span_local {p : CodePoint → Bool} {t seen rest rest' : Text}
    (h : t.span p = (seen, rest)) (hhead : rest'.head? = rest.head?) :
    List.span p (seen ++ rest') = (seen, rest') := by
  obtain ⟨hseen, hrest⟩ := of_span_eq h
  exact span_of_all hseen (hhead ▸ hrest)

theorem head?_append_congr {t t' : Text} (s : Text) (h : t'.head? = t.head?) :
    (s ++ t').head? = (s ++ t).head? := by
  cases s with
  | nil => exact h
  | cons c s => rfl

theorem isPrefixOf_pair_congr {a b c : CodePoint} {t t' : Text} (hhead : t'.head? = t.head?) :
    [a, b].isPrefixOf (c :: t') = [a, b].isPrefixOf (c :: t) := by
  cases t with
  | nil =>
    cases t' with
    | nil => rfl
    | cons d t' => cases hhead
  | cons d t =>
    cases t' with
    | nil => cases hhead
    | cons d' t' =>
      cases hhead
      simp [List.isPrefixOf]

theorem opensTag_congr {c : CodePoint} {t t' : Text} (hhead : t'.head? = t.head?) :
    opensTag (c :: t') = opensTag (c :: t) := by
  cases t with
  | nil =>
    cases t' with
    | nil => rfl
    | cons d t' => cases hhead
  | cons d t =>
    cases t' with
    | nil => cases hhead
    | cons d' t' =>
      cases hhead
      unfold opensTag
      split <;> simp_all

/-! ## Texts that start the same -/

/-- Two texts are the same up to a code point at which a reader stops, and have that in common. -/
inductive Agree (stops : CodePoint → Prop) : Text → Text → Prop
  | stop {c : CodePoint} (stops_c : stops c) (rest rest' : Text) :
      Agree stops (c :: rest) (c :: rest')
  | cons (c : CodePoint) {t t' : Text} (tail : Agree stops t t') : Agree stops (c :: t) (c :: t')

namespace Agree

variable {stops : CodePoint → Prop} {t t' : Text}

theorem append (s : Text) (h : Agree stops t t') : Agree stops (s ++ t) (s ++ t') := by
  induction s with
  | nil => exact h
  | cons c s ih => exact .cons c ih

theorem of_mem {front : Text} {c : CodePoint} (hmem : c ∈ front) (stops_c : stops c)
    (rest rest' : Text) : Agree stops (front ++ rest) (front ++ rest') := by
  obtain ⟨before, after, rfl⟩ := List.append_of_mem hmem
  rw [List.append_assoc, List.append_assoc]
  exact (stop stops_c _ _).append before

theorem symm (h : Agree stops t t') : Agree stops t' t := by
  induction h with
  | stop stops_c rest rest' => exact .stop stops_c rest' rest
  | cons c _ ih => exact .cons c ih

theorem exists_mem (h : Agree stops t t') : ∃ c ∈ t, stops c := by
  induction h with
  | stop stops_c => exact ⟨_, .head _, stops_c⟩
  | cons _ _ ih =>
    obtain ⟨c, hmem, stops_c⟩ := ih
    exact ⟨c, .tail _ hmem, stops_c⟩

theorem ne_nil (h : Agree stops t t') : t ≠ [] := by
  cases h <;> exact List.cons_ne_nil _ _

theorem head?_eq (h : Agree stops t t') : t'.head? = t.head? := by
  cases h <;> rfl

/-- Behind a code point at which the reader does not stop, the texts still agree. -/
theorem tail {c d : CodePoint} (h : Agree stops (c :: t) (d :: t')) (hc : ¬ stops c) :
    Agree stops t t' := by
  cases h with
  | stop stops_c => exact absurd stops_c hc
  | cons _ htail => exact htail

/-- Behind a span that no stop belongs to, the texts still agree. -/
theorem span {p : CodePoint → Bool} (hp : ∀ c, stops c → p c = false) (h : Agree stops t t') :
    (t'.span p).1 = (t.span p).1 ∧ Agree stops (t.span p).2 (t'.span p).2 := by
  simp only [List.span_eq_takeWhile_dropWhile]
  induction h with
  | stop stops_c rest rest' =>
    have hc := hp _ stops_c
    rw [List.takeWhile_cons_of_neg (by simp [hc]), List.takeWhile_cons_of_neg (by simp [hc]),
      List.dropWhile_cons_of_neg (by simp [hc]), List.dropWhile_cons_of_neg (by simp [hc])]
    exact ⟨rfl, .stop stops_c rest rest'⟩
  | cons c htail ih =>
    cases hc : p c with
    | false =>
      rw [List.takeWhile_cons_of_neg (by simp [hc]), List.takeWhile_cons_of_neg (by simp [hc]),
        List.dropWhile_cons_of_neg (by simp [hc]), List.dropWhile_cons_of_neg (by simp [hc])]
      exact ⟨rfl, .cons c htail⟩
    | true =>
      rw [List.takeWhile_cons_of_pos hc, List.takeWhile_cons_of_pos hc,
        List.dropWhile_cons_of_pos hc, List.dropWhile_cons_of_pos hc, ih.1]
      exact ⟨rfl, ih.2⟩

/-- A mark that no stop belongs to stands before both texts or before neither. -/
theorem after? {mark : Text} (hmark : ∀ c ∈ mark, ¬ stops c) (h : Agree stops t t')
    {rest : Text} (hafter : Text.after? mark t = some rest) :
    ∃ rest', Text.after? mark t' = some rest' ∧ Agree stops rest rest' := by
  rw [after?_eq_some_iff] at hafter
  subst hafter
  induction mark generalizing t' with
  | nil => exact ⟨t', after?_eq_some_iff.2 rfl, h⟩
  | cons c mark ih =>
    obtain ⟨d, t', rfl⟩ := List.exists_cons_of_ne_nil h.symm.ne_nil
    obtain rfl : d = c := by simpa using h.head?_eq
    obtain ⟨rest', hafter, hrest⟩ := ih (fun c hc => hmark c (.tail _ hc))
      (h.tail (hmark d (.head _)))
    refine ⟨rest', ?_, hrest⟩
    rw [after?_eq_some_iff] at hafter ⊢
    rw [List.cons_append, hafter]

theorem isPrefixOf {mark : Text} (hmark : ∀ c ∈ mark, ¬ stops c) (h : Agree stops t t') :
    mark.isPrefixOf t' = mark.isPrefixOf t := by
  rw [Bool.eq_iff_iff, List.isPrefixOf_iff_prefix, List.isPrefixOf_iff_prefix]
  constructor
  · rintro ⟨rest, hrest⟩
    obtain ⟨rest', hafter, -⟩ := h.symm.after? hmark (after?_eq_some_iff.2 hrest)
    exact ⟨rest', after?_eq_some_iff.1 hafter⟩
  · rintro ⟨rest, hrest⟩
    obtain ⟨rest', hafter, -⟩ := h.after? hmark (after?_eq_some_iff.2 hrest)
    exact ⟨rest', after?_eq_some_iff.1 hafter⟩

/-- What stands in one of the texts up to the first stop stands in the other one too. -/
theorem exists_eq_append {front behind : Text} {c : CodePoint}
    (h : Agree stops (front ++ c :: behind) t') (hfront : ∀ d ∈ front, ¬ stops d) :
    ∃ behind', t' = front ++ c :: behind' := by
  induction front generalizing t' with
  | nil =>
    obtain ⟨behind', h'⟩ := List.head?_eq_some_iff.1 h.head?_eq
    exact ⟨behind', h'⟩
  | cons d front ih =>
    obtain ⟨e, t', rfl⟩ := List.exists_cons_of_ne_nil h.symm.ne_nil
    obtain rfl : e = d := by simpa using h.head?_eq
    obtain ⟨behind', rfl⟩ := ih (h.tail (hfront e (.head _))) fun d hd => hfront d (.tail _ hd)
    exact ⟨behind', rfl⟩

end Agree

/-- The bracket that ends an opening or a closing tag. -/
def IsBracket (c : CodePoint) : Prop := c = .char '>'

instance : DecidablePred IsBracket := fun c => inferInstanceAs (Decidable (c = .char '>'))

theorem isBracket : IsBracket (.char '>') := rfl

/-! ## Readers that do not look ahead -/

/-- Two texts start with the same closing tag, or both have ended: whatever was left open before
one of them is left open before the other. -/
inductive SameEnd : Text → Text → Prop
  | pageEnd : SameEnd [] []
  | closing (inside rest rest' : Text) (bracket : .char '>' ∉ inside) :
      SameEnd (closingSource (some inside) ++ rest) (closingSource (some inside) ++ rest')

/-- Whether a node is a tag, with a name or without one. -/
def Node.isTag : Node → Bool
  | .tag _ _ _ | .fragment _ _ => true
  | _ => false

/-- Readers for what is nested that read the same whatever follows. A tag that was left open
depends on the closing tag that it met; alone, it is left open only at the end of the page. -/
structure Readers.Local (inner : Readers) : Prop where
  isTag {opened : List Text} {left rest : Text} {node : Node}
    (h : inner.tag opened left = .ok ⟨node, rest⟩) : node.isTag = true
  tag {opened : List Text} {node : Node} {rest rest' : Text}
    (h : inner.tag opened (node.source ++ rest) = .ok ⟨node, rest⟩)
    (ending : node.isUnclosed = true → SameEnd rest rest') :
    inner.tag opened (node.source ++ rest') = .ok ⟨node, rest'⟩
  alone {left rest : Text} {node : Node} (h : inner.tag [] left = .ok ⟨node, rest⟩) :
    node.isUnclosed = true → rest = []
  expression {pieces : List Piece} {rest : Text}
    (h : inner.expression (braced (piecesSource pieces) ++ rest) = .ok ⟨pieces, rest⟩)
    (rest' : Text) :
    inner.expression (braced (piecesSource pieces) ++ rest') = .ok ⟨pieces, rest'⟩

variable {inner : Readers}

/-! ## Strings and code -/

/-- A step of reading a string is seen in what it takes and in the next code point. -/
theorem readStringStep_local (hinner : inner.Local) (hfaithful : inner.Faithful)
    {quote : CodePoint} {start left front rest tail : Text} {state : Option Unit}
    (h : readStringStep inner quote start left = .ok ⟨(front, state), rest⟩)
    (start' : Text) (hhead : tail.head? = rest.head?) :
    readStringStep inner quote start' (front ++ tail) = .ok ⟨(front, state), tail⟩ := by
  cases left with
  | nil => cases h
  | cons c left =>
    simp only [readStringStep] at h
    split at h
    · -- a backslash protects what follows it
      next hslash =>
      cases left with
      | nil => cases h
      | cons d left =>
        cases h
        simp only [List.cons_append, List.nil_append, readStringStep, if_pos hslash]
    split at h
    · next hslash hquote =>
      cases h
      simp only [List.cons_append, List.nil_append, readStringStep, if_neg hslash, if_pos hquote]
    split at h
    · split at h
      · -- code in a template literal
        next hslash hquote hback hcode =>
        obtain ⟨⟨pieces, behind⟩, hpieces, h⟩ := exists_of_bind_eq_ok h
        cases h
        simp only [Bool.and_eq_true, decide_eq_true_eq] at hcode
        obtain ⟨code, rfl⟩ := List.head?_eq_some_iff.1 hcode.2
        rw [hfaithful.braced_append hpieces] at hpieces
        have hcode' : (decide (c = .char '$') && decide
            ((braced (piecesSource pieces) ++ tail).head? = some (.char '{'))) = true := by
          simp [hcode.1, braced]
        simp only [List.cons_append, readStringStep, if_neg hslash, if_neg hquote, if_pos hback,
          if_pos hcode', hinner.expression hpieces tail]
        rfl
      · next hslash hquote hback hcode =>
        cases h
        rw [← hhead] at hcode
        simp only [List.cons_append, List.nil_append, readStringStep, if_neg hslash,
          if_neg hquote, if_pos hback, if_neg hcode]
    split at h
    · -- the end of the line is not read
      next hslash hquote hback hline =>
      cases h
      obtain ⟨more, rfl⟩ := List.head?_eq_some_iff.1 (hhead : tail.head? = some c)
      simp only [List.nil_append, readStringStep, if_neg hslash, if_neg hquote, if_neg hback,
        if_pos hline]
    · next hslash hquote hback hline =>
      cases h
      simp only [List.cons_append, List.nil_append, readStringStep, if_neg hslash, if_neg hquote,
        if_neg hback, if_neg hline]

/-- A string ends with its quote or before the end of its line. -/
theorem readString_local (hinner : inner.Local) (hfaithful : inner.Faithful) {quote : CodePoint}
    {start : Text} (start' : Text) :
    ∀ (steps : Nat) (left : Text) (taken : Taken Text),
      readString inner quote start steps left = .ok taken →
        ∀ (steps' : Nat) (rest' : Text), rest'.head? = taken.left.head? →
          (taken.value ++ rest').length ≤ steps' →
            readString inner quote start' steps' (taken.value ++ rest') =
              .ok ⟨taken.value, rest'⟩ := by
  intro steps
  induction steps with
  | zero => intro left taken h; cases h
  | succ steps ih =>
    intro left taken h steps' rest' hhead hsteps
    rw [readString_succ] at h
    obtain ⟨⟨⟨front, state⟩, rest⟩, hstep, h⟩ := exists_of_bind_eq_ok h
    cases state with
    | none =>
      cases h
      have hstep' := readStringStep_local hinner hfaithful hstep start' hhead
      have left_ne : front ++ rest' ≠ [] := by
        intro hnil
        rw [hnil] at hstep'
        cases hstep'
      obtain ⟨steps'', rfl⟩ := Nat.exists_eq_add_one.2
        (Nat.lt_of_lt_of_le (List.length_pos_iff.2 left_ne) hsteps)
      rw [readString_succ, hstep']
      rfl
    | some =>
      obtain ⟨value, hread, hvalue⟩ := exists_of_prepend_eq_ok h
      have hrest := readString_eq_append hfaithful quote start steps rest _ hread
      have hhead' : (value ++ rest').head? = rest.head? := by
        rw [hrest]
        exact head?_append_congr value hhead
      have hfront := List.length_pos_iff.2
        ((readStringStep_append hfaithful hstep).2 (Option.some_ne_none _))
      rw [hvalue, List.append_assoc] at hsteps ⊢
      rw [List.length_append] at hsteps
      dsimp only at hfront hsteps ⊢
      obtain ⟨steps'', rfl⟩ := Nat.exists_eq_add_one.2 (show 0 < steps' by omega)
      have hread' := ih rest _ hread steps'' rest' hhead (by dsimp only; omega)
      rw [readString_succ, readStringStep_local hinner hfaithful hstep start' hhead']
      exact congrArg (prepend front) hread'

section Steps

variable {depth : Nat} {before rest tail : Text} {c : CodePoint}

theorem readCodeStep_string (hinner : inner.Local) (hfaithful : inner.Faithful) {steps : Nat}
    {start left string : Text} (hquote : c.isAmong ['"', '\'', '`'] = true)
    (hstring : readString inner c start steps left = .ok ⟨string, rest⟩) (start' : Text)
    (hhead : tail.head? = rest.head?) :
    readCodeStep inner start' depth before (c :: string ++ tail) =
      .ok ⟨([], some (depth, string.reverse ++ c :: before)), tail⟩ := by
  have hread := readString_local hinner hfaithful (c :: (string ++ tail)) _ _ _ hstring _ tail
    hhead (Nat.le_refl _)
  simp only [List.cons_append, readCodeStep, if_pos hquote, hread]
  rfl

theorem readCodeStep_line {line more : Text}
    (hspan : List.span (fun c => decide (c ≠ .char '\n')) (.char '/' :: .char '/' :: more) =
      (line, rest)) (start : Text) (hhead : tail.head? = rest.head?) :
    readCodeStep inner start depth before (line ++ tail) =
      .ok ⟨([], some (depth, line.reverse ++ before)), tail⟩ := by
  have hspan' := span_local hspan hhead
  rw [List.span_eq_takeWhile_dropWhile, List.takeWhile_cons_of_pos rfl,
    List.takeWhile_cons_of_pos rfl] at hspan
  obtain ⟨rfl, -⟩ := Prod.mk.inj hspan
  have hquote : ¬ (CodePoint.char '/').isAmong ['"', '\'', '`'] = true := by decide
  have hline (t : Text) : (text "//").isPrefixOf (.char '/' :: .char '/' :: t) = true := rfl
  simp only [List.cons_append] at hspan' ⊢
  simp only [readCodeStep, if_neg hquote, if_pos (hline _), hspan']

theorem readCodeStep_comment {start left comment : Text} {fault : Fault}
    (hcomment : readPast (text "*/") fault start left = .ok ⟨comment, rest⟩)
    (start' tail : Text) :
    readCodeStep inner start' depth before (text "/*" ++ comment ++ text "*/" ++ tail) =
      .ok ⟨([], some (depth, (text "/*" ++ comment ++ text "*/").reverse ++ before)), tail⟩ := by
  rw [readPast_eq_append hcomment] at hcomment
  have hread := readPast_local (by simp [text]) hcomment .unterminatedCodeComment
    (.char '/' :: .char '*' :: (comment ++ text "*/" ++ tail)) tail
  have hseen : text "/*" ++ comment ++ text "*/" ++ tail =
      .char '/' :: .char '*' :: (comment ++ text "*/" ++ tail) := by
    simp [text]
  have hquote : ¬ (CodePoint.char '/').isAmong ['"', '\'', '`'] = true := by decide
  have hline : ¬ (text "//").isPrefixOf
      (.char '/' :: .char '*' :: (comment ++ text "*/" ++ tail)) = true := by
    simp [text, List.isPrefixOf]
  have hopen : (text "/*").isPrefixOf
      (.char '/' :: .char '*' :: (comment ++ text "*/" ++ tail)) = true := rfl
  rw [hseen, readCodeStep, if_neg hquote, if_neg hline, if_pos hopen]
  simp only [List.drop_succ_cons, List.drop_zero, hread]
  rfl

theorem readCodeStep_brace (start tail : Text) :
    readCodeStep inner start depth before (.char '{' :: tail) =
      .ok ⟨([], some (depth + 1, .char '{' :: before)), tail⟩ := by
  have hquote : ¬ (CodePoint.char '{').isAmong ['"', '\'', '`'] = true := by decide
  have hline : ¬ (text "//").isPrefixOf (.char '{' :: tail) = true := by
    simp [text, List.isPrefixOf]
  have hopen : ¬ (text "/*").isPrefixOf (.char '{' :: tail) = true := by
    simp [text, List.isPrefixOf]
  rw [readCodeStep, if_neg hquote, if_neg hline, if_neg hopen, if_pos rfl]

theorem readCodeStep_close (start tail : Text) :
    readCodeStep inner start depth before (.char '}' :: tail) =
      if depth ≤ 1 then .ok ⟨(codePiece before, none), tail⟩
      else .ok ⟨([], some (depth - 1, .char '}' :: before)), tail⟩ := by
  have hquote : ¬ (CodePoint.char '}').isAmong ['"', '\'', '`'] = true := by decide
  have hline : ¬ (text "//").isPrefixOf (.char '}' :: tail) = true := by
    simp [text, List.isPrefixOf]
  have hopen : ¬ (text "/*").isPrefixOf (.char '}' :: tail) = true := by
    simp [text, List.isPrefixOf]
  rw [readCodeStep, if_neg hquote, if_neg hline, if_neg hopen, if_neg (by decide), if_pos rfl]

/-- A tag that was read before something else is read before whatever starts like that. -/
theorem readCodeStep_tag (hinner : inner.Local) (hfaithful : inner.Faithful) {node : Node}
    {left : Text} (opens : opensTag left = true) (allowed : tagMayFollow before = true)
    (hnode : inner.tag [] left = .ok ⟨node, rest⟩) (rest_ne : rest ≠ []) (start : Text)
    (hhead : tail.head? = rest.head?) :
    readCodeStep inner start depth before (node.source ++ tail) =
      .ok ⟨(codePiece before ++ [.markup node], some (depth, [])), tail⟩ := by
  obtain ⟨body, rfl⟩ := eq_cons_of_opensTag opens
  have hreads : Reads (.char '<' :: body) node rest := hfaithful.tag hnode
  have hsource := hreads.eq_append
  -- a tag that was left open would have taken everything
  have hnode' : inner.tag [] (node.source ++ tail) = .ok ⟨node, tail⟩ :=
    hinner.tag (hsource ▸ hnode) fun hopen => absurd (hinner.alone hnode hopen) rest_ne
  have opens' : opensTag (node.source ++ tail) = true := by
    obtain ⟨c, front, hfront⟩ := List.exists_cons_of_ne_nil hreads.source_ne
    rw [hsource, hfront, List.cons_append] at opens
    rw [hfront, List.cons_append, ← opens]
    exact opensTag_congr (head?_append_congr front hhead)
  obtain ⟨body', hbody'⟩ := eq_cons_of_opensTag opens'
  rw [hbody'] at hnode' opens' ⊢
  have hquote : ¬ (CodePoint.char '<').isAmong ['"', '\'', '`'] = true := by decide
  have hline : ¬ (text "//").isPrefixOf (.char '<' :: body') = true := by
    simp [text, List.isPrefixOf]
  have hopen : ¬ (text "/*").isPrefixOf (.char '<' :: body') = true := by
    simp [text, List.isPrefixOf]
  have htag : (opensTag (.char '<' :: body') && tagMayFollow before) = true := by
    rw [opens', allowed, Bool.and_self]
  rw [readCodeStep, if_neg hquote, if_neg hline, if_neg hopen, if_neg (by decide),
    if_neg (by decide), if_pos htag, hnode']
  rfl

/-- Which kind of code stands next is seen in two code points. -/
theorem starts_congr (hhead : tail.head? = rest.head?) :
    (text "//").isPrefixOf (c :: tail) = (text "//").isPrefixOf (c :: rest) ∧
      (text "/*").isPrefixOf (c :: tail) = (text "/*").isPrefixOf (c :: rest) ∧
        opensTag (c :: tail) = opensTag (c :: rest) :=
  ⟨isPrefixOf_pair_congr hhead, isPrefixOf_pair_congr hhead, opensTag_congr hhead⟩

/-- Code that is neither a string nor a comment, no brace and no tag. -/
theorem readCodeStep_other (hquote : ¬ c.isAmong ['"', '\'', '`'] = true)
    (hline : ¬ (text "//").isPrefixOf (c :: rest) = true)
    (hopen : ¬ (text "/*").isPrefixOf (c :: rest) = true) (hbrace : ¬ c = .char '{')
    (hclose : ¬ c = .char '}') (htag : ¬ (opensTag (c :: rest) && tagMayFollow before) = true)
    (start : Text) (hhead : tail.head? = rest.head?) :
    readCodeStep inner start depth before (c :: tail) =
      .ok ⟨([], some (depth, c :: before)), tail⟩ := by
  obtain ⟨hline', hopen', htag'⟩ := starts_congr (c := c) hhead
  rw [← hline'] at hline
  rw [← hopen'] at hopen
  rw [← htag'] at htag
  rw [readCodeStep, if_neg hquote, if_neg hline, if_neg hopen, if_neg hbrace, if_neg hclose,
    if_neg htag]

/-- A step of reading code is seen in what it takes, and in the next code point if code goes on
behind it. -/
theorem readCodeStep_local (hinner : inner.Local) (hfaithful : inner.Faithful)
    {start left : Text} {pieces : List Piece} {state : Option (Nat × Text)}
    (h : readCodeStep inner start depth before left = .ok ⟨(pieces, state), rest⟩) :
    ∃ seen, seen ≠ [] ∧ left = seen ++ rest ∧ (state = none → seen = [.char '}']) ∧
      ∀ start' tail : Text, (state ≠ none → rest ≠ [] ∧ tail.head? = rest.head?) →
        readCodeStep inner start' depth before (seen ++ tail) = .ok ⟨(pieces, state), tail⟩ := by
  have goesOn (state : Nat × Text) (seen : Text) : some state = none → seen = [.char '}'] :=
    fun hends => absurd hends (Option.some_ne_none state)
  cases left with
  | nil => cases h
  | cons c left =>
    simp only [readCodeStep] at h
    split at h
    · next hquote =>
      obtain ⟨⟨string, behind⟩, hstring, h⟩ := exists_of_bind_eq_ok h
      cases h
      have hleft := readString_eq_append hfaithful c _ _ _ _ hstring
      refine ⟨c :: string, List.cons_ne_nil _ _, congrArg (c :: ·) hleft, goesOn _ _, ?_⟩
      intro start' tail hbehind
      exact readCodeStep_string hinner hfaithful hquote hstring start'
        (hbehind (Option.some_ne_none _)).2
    split at h
    · -- a comment up to the end of the line
      next hquote hline =>
      cases h
      obtain ⟨more, hmore⟩ : ∃ more, c :: left = .char '/' :: .char '/' :: more :=
        ⟨_, eq_append_of_isPrefixOf hline⟩
      rw [hmore]
      refine ⟨_, ?_, (span_append (fun c => decide (c ≠ .char '\n')) _).symm, goesOn _ _, ?_⟩
      · rw [List.span_eq_takeWhile_dropWhile, List.takeWhile_cons_of_pos rfl]
        exact List.cons_ne_nil _ _
      · intro start' tail hbehind
        exact readCodeStep_line rfl start' (hbehind (Option.some_ne_none _)).2
    split at h
    · -- a comment up to its mark
      next hquote hline hopen =>
      obtain ⟨⟨comment, behind⟩, hcomment, h⟩ := exists_of_bind_eq_ok h
      cases h
      have hmark := readPast_eq_append hcomment
      refine ⟨text "/*" ++ comment ++ text "*/", List.cons_ne_nil _ _, ?_, goesOn _ _, ?_⟩
      · rw [List.append_assoc, List.append_assoc, ← List.append_assoc comment]
        exact (eq_append_of_isPrefixOf hopen).trans (congrArg (text "/*" ++ ·) hmark)
      · exact fun start' tail _ => readCodeStep_comment hcomment start' tail
    split at h
    · next hbrace =>
      cases h
      rw [hbrace]
      exact ⟨[.char '{'], List.cons_ne_nil _ _, rfl, goesOn _ _,
        fun start' tail _ => readCodeStep_brace start' tail⟩
    split at h
    · next hclose =>
      rw [hclose] at h ⊢
      refine ⟨[.char '}'], List.cons_ne_nil _ _, ?_, fun _ => rfl, fun start' tail _ => ?_⟩
      · split at h <;>
        · cases h
          rfl
      · rw [List.singleton_append, readCodeStep_close]
        split at h
        · next hdepth =>
          cases h
          exact if_pos hdepth
        · next hdepth =>
          cases h
          exact if_neg hdepth
    split at h
    · next htag =>
      obtain ⟨⟨node, behind⟩, hnode, h⟩ := exists_of_bind_eq_ok h
      cases h
      obtain ⟨opens, allowed⟩ := Bool.and_eq_true_iff.1 htag
      obtain ⟨body, hbody⟩ := eq_cons_of_opensTag opens
      rw [hbody] at hnode opens ⊢
      have hreads := hfaithful.tag hnode
      refine ⟨node.source, hreads.source_ne, hreads.eq_append, goesOn _ _, ?_⟩
      intro start' tail hbehind
      obtain ⟨rest_ne, hhead⟩ := hbehind (Option.some_ne_none _)
      exact readCodeStep_tag hinner hfaithful opens allowed hnode rest_ne start' hhead
    · next hquote hline hopen hbrace hclose htag =>
      cases h
      exact ⟨[c], List.cons_ne_nil _ _, rfl, goesOn _ _, fun start' tail hbehind =>
        readCodeStep_other hquote hline hopen hbrace hclose htag start'
          (hbehind (Option.some_ne_none _)).2⟩

end Steps

/-- Code ends with the brace that closes it, and is read the same whatever follows. -/
theorem readCode_local (hinner : inner.Local) (hfaithful : inner.Faithful) {start : Text} :
    ∀ (steps depth : Nat) (before left : Text) (taken : Taken (List Piece)),
      readCode inner start steps depth before left = .ok taken →
        ∃ code, left = code ++ .char '}' :: taken.left ∧
          ∀ (start' : Text) (steps' : Nat) (rest' : Text),
            (code ++ .char '}' :: rest').length ≤ steps' →
              readCode inner start' steps' depth before (code ++ .char '}' :: rest') =
                .ok ⟨taken.value, rest'⟩ := by
  intro steps
  induction steps with
  | zero => intro depth before left taken h; cases h
  | succ steps ih =>
    intro depth before left taken h
    rw [readCode_succ] at h
    obtain ⟨⟨⟨pieces, state⟩, rest⟩, hstep, h⟩ := exists_of_bind_eq_ok h
    obtain ⟨seen, seen_ne, rfl, hseen, hlocal⟩ := readCodeStep_local hinner hfaithful hstep
    cases state with
    | none =>
      cases h
      obtain rfl := hseen rfl
      refine ⟨[], rfl, fun start' steps' rest' hsteps => ?_⟩
      obtain ⟨steps'', rfl⟩ := Nat.exists_eq_add_one.2 (Nat.lt_of_lt_of_le (Nat.succ_pos _) hsteps)
      rw [List.nil_append, readCode_succ]
      exact bind_eq_of_eq_ok (hlocal start' rest' fun hgoes => absurd rfl hgoes)
    | some state =>
      obtain ⟨value, hread, hvalue⟩ := exists_of_prepend_eq_ok h
      obtain ⟨code, rfl, hcode⟩ := ih _ _ _ _ hread
      refine ⟨seen ++ code, (List.append_assoc _ _ _).symm, fun start' steps' rest' hsteps => ?_⟩
      have hpos := List.length_pos_iff.2 seen_ne
      rw [List.append_assoc, List.length_append] at hsteps
      obtain ⟨steps'', rfl⟩ := Nat.exists_eq_add_one.2 (show 0 < steps' by omega)
      -- the code behind starts in the same way, with the same brace at the latest
      have hstep' := hlocal start' (code ++ .char '}' :: rest') fun _ =>
        ⟨by simp, head?_append_congr code rfl⟩
      rw [List.append_assoc, readCode_succ, hstep', hvalue]
      exact congrArg (prepend pieces) (hcode _ _ _ (by omega))

theorem readExpression_local (hinner : inner.Local) (hfaithful : inner.Faithful)
    {pieces : List Piece} {rest : Text}
    (h : readExpression inner (braced (piecesSource pieces) ++ rest) = .ok ⟨pieces, rest⟩)
    (rest' : Text) :
    readExpression inner (braced (piecesSource pieces) ++ rest') = .ok ⟨pieces, rest'⟩ := by
  obtain ⟨code, hcode, hlocal⟩ := readCode_local hinner hfaithful _ _ _ _ _ h
  have hpieces : piecesSource pieces = code := by
    simp only [braced, List.cons_append, List.append_assoc, List.drop_succ_cons, List.drop_zero,
      List.nil_append] at hcode
    exact List.append_cancel_right hcode
  have hleft : (braced (piecesSource pieces) ++ rest').drop 1 = code ++ .char '}' :: rest' := by
    simp [braced, hpieces]
  rw [readExpression, hleft]
  refine hlocal _ _ _ ?_
  rw [← hleft, List.length_drop]
  omega

end VisibleText.Markup
