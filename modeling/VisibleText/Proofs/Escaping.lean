import VisibleText.Proofs.SingleEdit

/-!
# Quotes in what is written

What an edit writes into an attribute should not hold the quote that encloses the value there. The
quote that is written as an entity is the one before the field of the edit, and the bytes that are
taken may stand elsewhere: near the field, in the value of an attribute with the other quote, or
near a field of text, for which no quote is written as an entity.

So a quote of the new value stands there as it is just if the field is one of text or starts
behind the other quote (`quote_written_iff`). An edit of an attribute that is carried out at its
own field is safe just if its field starts where the enclosing value does.
-/

set_option autoImplicit false

namespace VisibleText

open VisibleText.Markup (Quote)

/-! ## Quotes among bytes -/

/-- The other one of the two quotes. -/
def Markup.Quote.other : Quote → Quote
  | double => single
  | single => double

theorem Markup.Quote.eq_or_eq_other (q quote : Quote) : q = quote ∨ q = quote.other := by
  cases q <;> cases quote <;> decide

theorem Markup.Quote.byte_other_ne (quote : Quote) : quote.other.byte ≠ quote.byte := by
  cases quote <;> decide

/-- The byte of a quote is in the bytes of the quote only. -/
theorem CodePoint.quote_mem_bytes_iff {c : CodePoint} {quote : Quote} :
    quote.byte ∈ c.bytes ↔ c = quote.mark := by
  constructor
  · intro hmem
    have hbyte : quote.byte.toNat = quote.mark.val ∧ quote.byte.toNat < 0x80 := by
      cases quote <;> decide
    by_cases hascii : c.val < 0x80
    · rw [c.bytes_of_ascii hascii, List.mem_singleton] at hmem
      rw [hmem, toNat_byte (by omega)] at hbyte
      exact CodePoint.val_injective hbyte.1
    · have hbeyond := c.le_of_mem_bytes (Nat.le_of_not_lt hascii) hmem
      omega
  · rintro rfl
    rw [quote.bytes_mark]
    exact List.mem_singleton_self _

theorem Text.quote_mem_bytes_iff {t : Text} {quote : Quote} :
    quote.byte ∈ t.bytes ↔ quote.mark ∈ t := by
  rw [Text.bytes, List.mem_flatMap]
  constructor
  · rintro ⟨c, hc, hmem⟩
    rwa [CodePoint.quote_mem_bytes_iff.1 hmem] at hc
  · exact fun hmem => ⟨_, hmem, CodePoint.quote_mem_bytes_iff.2 rfl⟩

/-- Where another code point is written as something without the first one, the first one
stays. -/
theorem Text.mem_substitute_iff {c d : CodePoint} {written t : Text} (hne : c ≠ d)
    (hwritten : c ∉ written) : c ∈ t.substitute d written ↔ c ∈ t := by
  rw [Text.substitute, List.mem_flatMap]
  constructor
  · rintro ⟨x, hx, hmem⟩
    split at hmem
    · exact absurd hmem hwritten
    · rwa [List.mem_singleton.1 hmem]
  · intro hmem
    refine ⟨c, hmem, ?_⟩
    rw [if_neg hne]
    exact List.mem_singleton_self c

/-! ## What is written behind a quote -/

/-- If one of the quotes stands before a place, the other one does not. -/
theorem Bytes.QuoteBefore.other_iff {b : Bytes} {place : Nat} {before quote : Quote}
    (h : b.QuoteBefore before place) :
    b.QuoteBefore quote.other place ↔ ¬ b.QuoteBefore quote place := by
  constructor
  · rintro ⟨m, hm, hother⟩ ⟨n, hn, hquote⟩
    obtain rfl : m = n := Nat.succ.inj (hm.symm.trans hn)
    exact quote.byte_other_ne (Option.some.inj (hother.symm.trans hquote))
  · intro hquote
    rcases before.eq_or_eq_other quote with rfl | rfl
    · exact absurd h hquote
    · exact h

section Written

variable {b : Bytes} {f : Field} {quote : Quote}

/-- An edit of a field of text writes the quotes of its new value as they are. -/
theorem Edit.quote_mem_written_of_text {e : Edit} (hkind : f.kind = .text) :
    quote.byte ∈ (e.written b f).bytes ↔ quote.mark ∈ e.newValue := by
  rw [Text.quote_mem_bytes_iff, Edit.written, hkind]

/-- An edit of a field behind a quote writes the other quote only as it is. -/
theorem Edit.quote_mem_written_of_attribute {e : Edit} {before : Quote}
    (hkind : f.kind = .attribute) (hbefore : b.QuoteBefore before f.range.start) :
    quote.byte ∈ (e.written b f).bytes ↔
      quote.mark ∈ e.newValue ∧ b.QuoteBefore quote.other f.range.start := by
  rw [Text.quote_mem_bytes_iff, Edit.written, hkind]
  simp only
  rw [hbefore.escapeQuote_eq]
  rcases before.eq_or_eq_other quote with rfl | rfl
  · exact iff_of_false (Text.not_mem_substitute before.mark_not_mem_entity _)
      fun hmem => hbefore.other_iff.1 hmem.2 hbefore
  · have hne : quote.mark ≠ quote.other.mark ∧ quote.mark ∉ quote.other.entity := by
      cases quote <;> decide
    rw [Text.mem_substitute_iff hne.1 hne.2]
    exact (and_iff_left hbefore).symm

end Written

namespace Field

open VisibleText.Document (QuotedAttribute partsPosition quotedAttributesAt)
open VisibleText.Markup (OpenTag Piece Reads ReadsAll ReadsPieces)

section Behind

variable {source page : Text} {window : Int} {fields : List Field} {f : Field}

theorem exists_quoteBefore_of_valueStart? {b name : Bytes} {start position place : Nat}
    (h : b.valueStart? window start name position = some place) :
    ∃ quote, b.QuoteBefore quote place := by
  obtain ⟨o, ho, rfl⟩ := exists_occurrence_of_valueStart? h
  obtain ⟨seen, x, head, rest, hb, -, ⟨before, after, byte, rfl, -, -, hbyte⟩, hname, hvalue, -⟩ :=
    exists_eq_of_occurrence ho
  obtain ⟨quote, rfl⟩ : ∃ quote : Quote, byte = quote.byte := by
    rcases hbyte with rfl | rfl
    · exact ⟨.double, rfl⟩
    · exact ⟨.single, rfl⟩
  rw [hvalue, hname]
  exact ⟨quote, Bytes.quoteBefore_of_valueHead hb⟩

/-- The field of an attribute starts behind a quote, wherever it was found. -/
theorem exists_quoteBefore (hfields : ofPage window source = .ok fields) (hf : f ∈ fields)
    (hkind : f.kind = .attribute) : ∃ quote, source.bytes.QuoteBefore quote f.range.start := by
  obtain rfl := eq_sites_of_ofPage hfields
  obtain ⟨s, -, hs⟩ := List.mem_filterMap.1 hf
  obtain ⟨group, opening, position, q, rfl⟩ := Site.exists_quoted hs hkind
  exact exists_quoteBefore_of_valueStart? (Site.start?_eq_some hs)

/-- Of the places in the value of a quoted attribute, its quote stands before the first one only:
the value does not hold the quote. -/
theorem quoteBefore_iff_eq_valueStart {q : QuotedAttribute} {place : Nat} (hq : q.StandsIn page)
    (hlow : q.valueStart ≤ place) (hhigh : place ≤ (valueRange q).stop) :
    page.bytes.QuoteBefore q.quote place ↔ place = q.valueStart := by
  constructor
  · rintro ⟨n, rfl, hbyte⟩
    by_contra hne
    have hmem : q.quote.byte ∈ page.bytes.slice ⟨q.valueStart, q.value.width⟩ := by
      have hshort : n - q.valueStart < q.value.width := by
        have hstop : (valueRange q).stop = q.valueStart + q.value.width := rfl
        omega
      refine List.mem_iff_getElem?.2 ⟨n - q.valueStart, ?_⟩
      have hsum : q.valueStart + (n - q.valueStart) = n := by omega
      rw [Bytes.slice, List.getElem?_take_of_lt hshort, List.getElem?_drop, hsum, hbyte]
    rw [← valueRange, slice_valueRange hq] at hmem
    exact hq.value (Text.quote_mem_bytes_iff.1 hmem)
  · rintro rfl
    exact quoteBefore_valueStart hq

end Behind

/-! ## The quoted attributes of a page -/

mutual

/-- The opening tags in markup at a position, each with its own position. -/
def openingsIn (position : Nat) : Markup.Node → List (Nat × OpenTag)
  | .text _ => []
  | .comment _ => []
  | .doctype _ => []
  | .frontmatter _ => []
  | .expression pieces => openingsInPieces (position + 1) pieces
  | .fragment children _ => openingsAmong (position + 2) children
  | .tag opening children _ =>
    (position, opening) :: openingsAmong (position + opening.source.width) children

/-- The opening tags in markup from a position on. -/
def openingsAmong (position : Nat) : List Markup.Node → List (Nat × OpenTag)
  | [] => []
  | node :: nodes => openingsIn position node ++ openingsAmong (position + node.source.width) nodes

/-- The opening tags in the pieces of an expression from a position on. -/
def openingsInPieces (position : Nat) : List Piece → List (Nat × OpenTag)
  | [] => []
  | .code value :: pieces => openingsInPieces (position + value.width) pieces
  | .markup node :: pieces =>
    openingsIn position node ++ openingsInPieces (position + node.source.width) pieces

end

/-- The quoted attributes of a page, in expressions too; a page that cannot be read has none. -/
def quotedOf (page : Text) : List QuotedAttribute :=
  match Markup.nodesOf page with
  | .ok nodes =>
    (openingsAmong 0 nodes).flatMap fun (position, opening) =>
      quotedAttributesAt (partsPosition position opening) opening.parts
  | .error _ => []

theorem openingsIn_eq_nil {node : Markup.Node} (plain : node.isPlain = true) {position : Nat} :
    openingsIn position node = [] := by
  cases node with
  | text | comment | doctype | frontmatter => rfl
  | expression | tag | fragment => cases plain

mutual

/-- The opening tags in markup that was read behind some text of the page stand in the page. -/
theorem opensAt_of_mem_openingsIn {page before left rest : Text} {node : Markup.Node}
    {x : Nat × OpenTag} (hread : Reads left node rest) (hpage : page = before ++ left)
    (hx : x ∈ openingsIn before.width node) : OpensAt page x.2 x.1 := by
  match hread with
  | .plain _ plain _ _ | .front _ _ _ plain _ =>
    rw [openingsIn_eq_nil plain] at hx
    cases hx
  | .raw _ _ => cases hx
  | .expression _ inside =>
    have hbody := hpage.trans (List.append_cons before _ _)
    have hwidth : (before ++ [CodePoint.char '{']).width = before.width + 1 := by
      rw [Text.width_append]
      rfl
    rw [openingsIn, ← hwidth] at hx
    exact opensAt_of_mem_openingsInPieces inside hbody hx
  | .fragment _ inside =>
    have hbody := hpage.trans (List.append_assoc before (VisibleText.text "<>") _).symm
    have hwidth : (before ++ VisibleText.text "<>").width = before.width + 2 := by
      rw [Text.width_append]
      rfl
    rw [openingsIn, ← hwidth] at hx
    exact opensAt_of_mem_openingsAmong inside hbody hx
  | .tag call inside =>
    have hbody := hpage.trans (List.append_assoc before _ _).symm
    rcases List.mem_cons.1 hx with rfl | hx
    · exact ⟨(Reads.tag call inside).opening_proper, before, _, hbody, rfl⟩
    · rw [← Text.width_append] at hx
      exact opensAt_of_mem_openingsAmong inside hbody hx

theorem opensAt_of_mem_openingsAmong {page before left rest : Text} {nodes : List Markup.Node}
    {x : Nat × OpenTag} (hread : ReadsAll left nodes rest) (hpage : page = before ++ left)
    (hx : x ∈ openingsAmong before.width nodes) : OpensAt page x.2 x.1 := by
  match hread with
  | .nil => cases hx
  | .cons head tail =>
    rcases List.mem_append.1 hx with hx | hx
    · exact opensAt_of_mem_openingsIn head hpage hx
    · rw [head.eq_append, ← List.append_assoc] at hpage
      rw [← Text.width_append] at hx
      exact opensAt_of_mem_openingsAmong tail hpage hx

theorem opensAt_of_mem_openingsInPieces {page before left rest : Text} {pieces : List Piece}
    {x : Nat × OpenTag} (hread : ReadsPieces left pieces rest) (hpage : page = before ++ left)
    (hx : x ∈ openingsInPieces before.width pieces) : OpensAt page x.2 x.1 := by
  match hread with
  | .nil => cases hx
  | .code tail =>
    rw [← List.append_assoc] at hpage
    rw [openingsInPieces, ← Text.width_append] at hx
    exact opensAt_of_mem_openingsInPieces tail hpage hx
  | .markup head tail =>
    rcases List.mem_append.1 hx with hx | hx
    · exact opensAt_of_mem_openingsIn head hpage hx
    · rw [head.eq_append, ← List.append_assoc] at hpage
      rw [← Text.width_append] at hx
      exact opensAt_of_mem_openingsInPieces tail hpage hx

end

/-- Every quoted attribute of a page stands in the page as it was read. -/
theorem standsIn_of_mem_quotedOf {page : Text} {q : QuotedAttribute} (hq : q ∈ quotedOf page) :
    q.StandsIn page := by
  unfold quotedOf at hq
  split at hq
  · next nodes hnodes =>
    obtain ⟨⟨position, opening⟩, hx, hq⟩ := List.mem_flatMap.1 hq
    have hopens := opensAt_of_mem_openingsAmong (readsAll_of_nodesOf hnodes)
      (List.nil_append page).symm hx
    exact (hopens.attribute_standsIn hq).1
  · cases hq

end Field

/-! ## Quotes in quoted values -/

open VisibleText.Field (quotedOf valueRange)

/-- A replacement in the value of a quoted attribute writes the quote of the attribute just if the
new value holds it and the field of the edit is one of text or starts behind the other quote. For
an edit of an attribute at its own field this is so just if the field does not start where the
value does. -/
theorem quote_written_iff {reach : Reach} {source : Text} {batch : List Edit} {outcome : Outcome}
    (h : applyEdits reach source batch = .ok outcome) :
    ∃ fields, Field.ofPage reach.openTag source = .ok fields ∧
      outcome.source.bytes =
        rebuilt source.bytes 0 (carriedOut source.bytes reach.search fields batch) ∧
      ∀ r ∈ carriedOut source.bytes reach.search fields batch, ∀ q ∈ quotedOf source,
        r.range.Inside (valueRange q) →
          ∃ f, fields.find? (fun f => f.id = r.edit.id) = some f ∧
            (q.quote.byte ∈ r.written ↔ q.quote.mark ∈ r.edit.newValue ∧
              (f.kind = .text ∨ source.bytes.QuoteBefore q.quote.other f.range.start)) ∧
            (f.kind = .attribute → f.range.start = r.range.start →
              (q.quote.byte ∈ r.written ↔
                q.quote.mark ∈ r.edit.newValue ∧ r.range.start ≠ q.valueStart)) := by
  obtain ⟨fields, hfields, h⟩ := exists_fields_of_applyEdits h
  obtain ⟨-, -, hsource, -⟩ := Field.ofPage_eq_ok hfields
  have hstarts := fun f hf => (Field.standsIn_of_ofPage hfields f hf).boundary
  obtain ⟨-, -, hbytes⟩ := rebuilt_of_applyTo hsource hstarts h
  refine ⟨fields, hfields, hbytes, fun r hr q hq hinside => ?_⟩
  obtain ⟨f, hfirst, -, hwritten⟩ := (resolves_of_mem_carriedOut hr).exists_field
  refine ⟨f, hfirst, ?_⟩
  rw [hwritten]
  match hkind : f.kind with
  | .text =>
    refine ⟨?_, fun hattribute => nomatch hattribute⟩
    rw [Edit.quote_mem_written_of_text hkind]
    exact (and_iff_left (.inl rfl)).symm
  | .attribute =>
    obtain ⟨before, hbefore⟩ :=
      Field.exists_quoteBefore hfields (List.mem_of_find?_eq_some hfirst) hkind
    rw [Edit.quote_mem_written_of_attribute hkind hbefore]
    refine ⟨and_congr_right fun _ => ?_, fun _ hstart => and_congr_right fun _ => ?_⟩
    · exact (or_iff_right FieldKind.noConfusion).symm
    · have hlow : q.valueStart ≤ f.range.start := hstart ▸ hinside.1
      have hhigh : f.range.start ≤ (valueRange q).stop :=
        hstart ▸ Nat.le_trans r.range.start_le_stop hinside.2
      rw [hbefore.other_iff, ← hstart, Field.quoteBefore_iff_eq_valueStart
        (Field.standsIn_of_mem_quotedOf hq) hlow hhigh]

/-- A page with two attributes, each between other quotes. -/
def quotedPage : Text := text "<img alt=\"ab\" title='cd'>"

def quotedFields : List Field :=
  [Field.ofAttribute 10 (text "img") (text "alt") (text "ab") [],
    Field.ofAttribute 21 (text "img") (text "title") (text "cd") []]

theorem ofPage_quotedPage : Field.ofPage 2000 quotedPage = .ok quotedFields := by
  have hrun : (Field.ofPage 2000 quotedPage).toOption = some quotedFields := by
    decide +kernel
  exact Markup.eq_ok_of_toOption hrun

theorem exists_quoted_of_mem {quote : Quote} {range : ByteRange}
    (h : (quote, range) ∈ [(Quote.double, (⟨10, 2⟩ : ByteRange)), (Quote.single, ⟨21, 2⟩)]) :
    ∃ q ∈ quotedOf quotedPage, q.quote = quote ∧ valueRange q = range := by
  have hquoted : (quotedOf quotedPage).map (fun q => (q.quote, valueRange q)) =
      [(Quote.double, (⟨10, 2⟩ : ByteRange)), (Quote.single, ⟨21, 2⟩)] := by
    decide +kernel
  obtain ⟨q, hq, heq⟩ := List.mem_map.1 (hquoted ▸ h)
  exact ⟨q, hq, Prod.mk.inj heq⟩

/-- An edit at its own field, with both quotes in its new value. -/
theorem quote_written_iff_of_image : ∃ (outcome : Outcome) (fields : List Field)
    (r : Replacement) (q : Document.QuotedAttribute),
    applyEdits .default quotedPage [⟨text "attr:10:alt", text "ab", text "\"it's\""⟩] =
        .ok outcome ∧
      outcome.source = text "<img alt=\"&quot;it's&quot;\" title='cd'>" ∧
      Field.ofPage 2000 quotedPage = .ok fields ∧
      r ∈ carriedOut quotedPage.bytes 200 fields
        [⟨text "attr:10:alt", text "ab", text "\"it's\""⟩] ∧
      q ∈ quotedOf quotedPage ∧ r.range.Inside (valueRange q) ∧
      q.quote.mark ∈ r.edit.newValue ∧ q.quote.byte ∉ r.written := by
  have hrun : (applyEdits .default quotedPage
      [⟨text "attr:10:alt", text "ab", text "\"it's\""⟩]).toOption =
      some ⟨text "<img alt=\"&quot;it's&quot;\" title='cd'>", [text "attr:10:alt"], []⟩ := by
    decide +kernel
  have happly := Markup.eq_ok_of_toOption hrun
  have hcarried : (carriedOut quotedPage.bytes 200 quotedFields
      [⟨text "attr:10:alt", text "ab", text "\"it's\""⟩]).map (fun r => (r.range, r.edit)) =
        [(⟨10, 2⟩, ⟨text "attr:10:alt", text "ab", text "\"it's\""⟩)] := by
    decide +kernel
  obtain ⟨r, hr, heq⟩ := List.mem_map.1 (hcarried ▸ List.mem_singleton_self _)
  obtain ⟨hrange, hedit⟩ := Prod.mk.inj heq
  obtain ⟨q, hq, hquote, hvalue⟩ := exists_quoted_of_mem (.head _)
  have hinside : r.range.Inside (valueRange q) := by
    rw [hrange, hvalue]
    exact ⟨Nat.le_refl _, Nat.le_refl _⟩
  obtain ⟨fields, hfields, -, hwritten⟩ := quote_written_iff happly
  obtain rfl := Except.ok.inj (ofPage_quotedPage.symm.trans hfields)
  obtain ⟨f, hfirst, -, hown⟩ := hwritten r hr q hq hinside
  have hf : f = Field.ofAttribute 10 (text "img") (text "alt") (text "ab") [] := by
    rw [hedit] at hfirst
    exact Option.some.inj (hfirst.symm.trans (by decide +kernel))
  refine ⟨_, _, r, q, happly, rfl, hfields, hr, hq, hinside, ?_, fun hmem => ?_⟩
  · rw [hquote, hedit]
    decide
  · have hstart : q.valueStart = 10 := congrArg ByteRange.start hvalue
    refine ((hown (hf ▸ rfl) (by rw [hf, hrange]; rfl)).1 hmem).2 ?_
    rw [hrange, hstart]

/-- Not all that is written into a quoted value is free of its quote: an edit of an attribute whose
old value stands in the next attribute, between the other quotes, writes that quote as it is. -/
theorem not_forall_quote_escaped : ¬ ∀ (reach : Reach) (source : Text) (batch : List Edit)
    (outcome : Outcome) (fields : List Field),
    Field.ofPage reach.openTag source = .ok fields →
      applyEdits reach source batch = .ok outcome →
        ∀ r ∈ carriedOut source.bytes reach.search fields batch, ∀ q ∈ quotedOf source,
          r.range.Inside (valueRange q) → q.quote.byte ∉ r.written := by
  intro hall
  have hrun : (applyEdits .default quotedPage
      [⟨text "attr:10:alt", text "cd", text "it's"⟩]).toOption =
      some ⟨text "<img alt=\"ab\" title='it's'>", [text "attr:10:alt"], []⟩ := by
    decide +kernel
  have hcarried : (carriedOut quotedPage.bytes 200 quotedFields
      [⟨text "attr:10:alt", text "cd", text "it's"⟩]).map (fun r => (r.range, r.written)) =
        [(⟨21, 2⟩, (text "it's").bytes)] := by
    decide +kernel
  obtain ⟨r, hr, heq⟩ := List.mem_map.1 (hcarried ▸ List.mem_singleton_self _)
  obtain ⟨hrange, hwritten⟩ := Prod.mk.inj heq
  obtain ⟨q, hq, hquote, hvalue⟩ := exists_quoted_of_mem (.tail _ (.head _))
  have hinside : r.range.Inside (valueRange q) := by
    rw [hrange, hvalue]
    exact ⟨Nat.le_refl _, Nat.le_refl _⟩
  have hnone := hall .default _ _ _ _ ofPage_quotedPage (Markup.eq_ok_of_toOption hrun) r hr q hq
    hinside
  rw [hquote, hwritten] at hnone
  exact hnone (by decide +kernel)

end VisibleText
